import ManifestLint.Console.Emoji
import ManifestLint.Console.StyleName

/-!
# Markup

Text for the console carries styles as tags between square brackets.  A tag starts with a lower-case
letter, `#`, `/` or `@`; a slash closes the style it names, or the last one that is open.
Backslashes before a tag are halved, and an odd one makes it plain text.  Between tags the names of
emoji stand for them.

* `escape` protects a text of unknown origin, `render` gives the text that users see.
-/

namespace ManifestLint.Markup

/-- Why a markup has no text: it closes a style that is not open. -/
inductive MarkupError where
  | nothingOpen
  | notOpen (style : String)
  deriving DecidableEq, Repr

/-- The wording of a markup error. -/
def MarkupError.message : MarkupError → String
  | nothingOpen => "There is no style to close"
  | notOpen style => s!"There is no style to close that is called '{style}'"

/-- Whether a tag can start with a character. -/
def startsTag (c : Char) : Bool := c.isLower || c = '#' || c = '/' || c = '@'

/-- The inside of a tag whose opening bracket stands before a text, and what follows the tag. -/
def tagInside? : List Char → Option (List Char × List Char)
  | [] => none
  | c :: rest =>
    let isInside := fun d => d ≠ '[' && d ≠ ']'
    if startsTag c then
      match rest.dropWhile isInside with
      | ']' :: behind => some (c :: rest.takeWhile isInside, behind)
      | _ => none
    else none

/-- A piece of markup. -/
inductive Piece where
  /-- Backslashes and another character behind them, if there is one. -/
  | plain (slashes : Nat) (next : Option Char)
  /-- Backslashes and a tag behind them. -/
  | tag (slashes : Nat) (inside : List Char)

/-- The pieces of a text, in at most so many steps. -/
def piecesWithin : (steps : Nat) → List Char → List Piece
  | 0, _ => []
  | steps + 1, text =>
    let slashes := (text.takeWhile (· = '\\')).length
    match text.dropWhile (· = '\\') with
    | [] => if slashes = 0 then [] else [.plain slashes none]
    | c :: rest =>
      match if c = '[' then tagInside? rest else none with
      | some (inside, behind) => .tag slashes inside :: piecesWithin steps behind
      | none => .plain slashes (some c) :: piecesWithin steps rest

/-- The pieces of a text. -/
def pieces (text : List Char) : List Piece := piecesWithin (text.length + 1) text

/-- A tag with its brackets. -/
def bracketed (inside : List Char) : List Char := '[' :: inside ++ [']']

/-- A piece that is shown as it was written. -/
def Piece.escaped : Piece → List Char
  | plain slashes next => List.replicate slashes '\\' ++ next.toList
  | tag slashes inside => List.replicate (2 * slashes + 1) '\\' ++ bracketed inside

/-- A text as markup that shows it.  A single backslash at the end is doubled. -/
def escape (text : String) : String :=
  let escaped := (pieces text.toList).flatMap Piece.escaped
  .ofList <|
    match escaped.reverse with
    | '\\' :: '\\' :: _ => escaped
    | '\\' :: _ => escaped ++ ['\\']
    | _ => escaped

/-- Whether a character can be shown at all. -/
def isShown (c : Char) : Bool := c.toNat ∉ [7, 8, 11, 12, 13]

/-- The open styles without the last one of a name. -/
def closeNamed? (name : List Char) : List (List Char) → Option (List (List Char))
  | [] => none
  | opened :: rest =>
    if opened = name then some rest else (closeNamed? name rest).map (opened :: ·)

/-- The open styles behind a tag, the last one first. -/
def applyTag (opened : List (List Char)) (inside : List Char) :
    Except MarkupError (List (List Char)) :=
  match inside.takeWhile (· ≠ '=') with
  | '/' :: name =>
    if Text.trim Text.isBlank name = [] then
      match opened with
      | [] => .error .nothingOpen
      | _ :: rest => .ok rest
    else
      match closeNamed? (styleName name) opened with
      | some rest => .ok rest
      | none => .error (.notOpen (.ofList name))
  | name => .ok (styleName name :: opened)

/-- The text of pieces, with the styles that are open before them: the plain text up to the first
tag, in which emoji are still named, and the rest. -/
def renderPieces (opened : List (List Char)) :
    List Piece → Except MarkupError (List Char × List Char)
  | [] => .ok ([], [])
  | .plain slashes next :: rest => do
    let kept := if next = some '[' then slashes - 1 else slashes
    let (plain, last) ← renderPieces opened rest
    return (List.replicate kept '\\' ++ next.toList ++ plain, last)
  | .tag slashes inside :: rest => do
    let shown := List.replicate (slashes / 2) '\\'
    if slashes % 2 = 1 then
      let (plain, last) ← renderPieces opened rest
      return ([], shown ++ withEmoji (bracketed inside) ++ withEmoji plain ++ last)
    else
      let (plain, last) ← renderPieces (← applyTag opened inside) rest
      return ([], shown ++ withEmoji plain ++ last)

/-- The text that users see of a markup. -/
def render (markup : String) : Except MarkupError String := do
  let (plain, last) ← renderPieces [] (pieces markup.toList)
  return .ofList ((withEmoji plain ++ last).filter isShown)

end ManifestLint.Markup
