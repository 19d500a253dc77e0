import ManifestLint.Console.EmojiTable
import ManifestLint.Text.Blank
import ManifestLint.Text.Lower

/-!
# Emoji by name

In text for the console the name of an emoji between two colons stands for the emoji, in any letter
case.  Behind the name may stand whether it is to be shown as text or in colors.

* `withEmoji` puts the emoji in.
-/

namespace ManifestLint.Markup

open ManifestLint.Text

/-- Names and emoji in turn as pairs. -/
def pairUp : List (List Char) → List (List Char × List Char)
  | name :: emoji :: rest => (name, emoji) :: pairUp rest
  | _ => []

/-- The emoji by their names. -/
def emojis : List (List Char × List Char) :=
  let text := emojiText.toList.map fun c => if c = '\n' then ' ' else c
  pairUp ((text.splitOn ' ').filter (!·.isEmpty))

/-- The two ways to show an emoji, each with the character that asks for it. -/
def variants : List (List Char × Char) := [
  ("-text".toList, Char.ofNat 0xFE0E), ("-emoji".toList, Char.ofNat 0xFE0F)]

/-- The emoji that a name stands for, perhaps with a way to show it. -/
def emoji? (name : List Char) : Option (List Char) :=
  let variant := variants.find? fun (ending, _) => ending.isSuffixOf name
  match variant with
  | some (ending, mark) =>
    (emojis.lookup (lowerChars (name.take (name.length - ending.length)))).map (· ++ [mark])
  | none => emojis.lookup (lowerChars name)

/-- Whether a character can stand between the colons. -/
def isNameChar (c : Char) : Bool := c ≠ ':' && !isBlank c

/-- Puts emoji into a text, in at most so many steps. -/
def withEmojiWithin : (steps : Nat) → List Char → List Char
  | 0, text => text
  | _, [] => []
  | steps + 1, c :: rest =>
    if c = ':' then
      match rest.dropWhile isNameChar with
      | ':' :: behind =>
        let name := rest.takeWhile isNameChar
        (emoji? name).getD (':' :: name ++ [':']) ++ withEmojiWithin steps behind
      | _ => c :: withEmojiWithin steps rest
    else c :: withEmojiWithin steps rest

/-- A text with the emoji that it names. -/
def withEmoji (text : List Char) : List Char := withEmojiWithin text.length text

end ManifestLint.Markup
