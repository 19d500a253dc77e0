import ManifestLint.Version.Basic

/-!
# Dependency specifiers

A dependency is written `author/name@requirement`.  A specifier that is still being typed is taken
apart without guessing: a part counts as complete only once the separator behind it stands.

* `Specifier.ofChars` takes a text apart.
* `wordEnd?` finds the end of a word from any offset.
-/

namespace ManifestLint

/-- The parts of a specifier that are there so far. -/
structure Specifier where
  author : String := ""
  name : String := ""
  requirement : String := ""
  coerced : String := ""
  fullAuthor : Bool := false
  fullName : Bool := false
  deriving DecidableEq, Repr

namespace Specifier

/-- A character that a word can start with: an ASCII letter. -/
def isWordStart (c : Char) : Bool := c.isAlpha

/-- A character that a word can go on with: an ASCII letter or digit, or a hyphen. -/
def isWordChar (c : Char) : Bool := c.isAlphanum || c = '-'

/-- The word at the start of a text, and what follows it. -/
def spanWord : List Char → List Char × List Char
  | [] => ([], [])
  | c :: rest =>
    if isWordStart c then (c :: rest.takeWhile isWordChar, rest.dropWhile isWordChar)
    else ([], c :: rest)

/-- Takes a specifier apart. -/
def ofChars (text : List Char) : Specifier :=
  match spanWord text with
  | ([], _) => {}
  | (author, '/' :: rest) =>
    match spanWord rest with
    | ([], _) => { author := .ofList author, fullAuthor := true }
    | (name, '@' :: requirement) => {
        author := .ofList author
        name := .ofList name
        requirement := .ofList requirement
        coerced := (Version.coerced? (.ofList requirement)).getD ""
        fullAuthor := true
        fullName := true }
    | (name, _) => { author := .ofList author, name := .ofList name, fullAuthor := true }
  | (author, _) => { author := .ofList author }

/-- Takes a specifier apart. -/
def parse (text : String) : Specifier := ofChars text.toList

/-- The text from an offset on.  A negative offset counts from the end, and the text then starts
over behind its last character. -/
def textFrom (text : List Char) (start : Int) : List Char :=
  if start < 0 then text.drop (text.length - start.natAbs) ++ text else text.drop start.toNat

/-- The offset behind the word that starts at an offset, or that offset if no word starts there.
There is no answer before the start of the text. -/
def wordEnd? (text : List Char) (start : Int) : Option Int :=
  if start < -(text.length : Int) then none
  else some (start + (spanWord (textFrom text start)).1.length)

end Specifier

end ManifestLint
