/-!
# Cursor in a YAML text

The structure of a YAML text hangs on lines and columns, so the cursor carries them along.  Five
characters end a line; three of them are read as a line feed and two stand for themselves.  A byte
order mark takes no column.
-/

namespace ManifestLint.Yaml

/-- What is left of a text: how many characters and lines precede it, and the column in which it
starts. -/
structure Source where
  offset : Nat
  line : Nat
  column : Nat
  rest : List Char

/-- Whether a character ends a line. -/
def isBreak (c : Char) : Bool := c.toNat ∈ [0x0A, 0x0D, 0x85, 0x2028, 0x2029]

/-- What the end of a line is read as. -/
def breakChar (c : Char) : Char := if c.toNat ∈ [0x2028, 0x2029] then c else '\n'

/-- Whether a character is a blank within a line. -/
def isInlineBlank (c : Char) : Bool := c = ' ' || c = '\t'

/-- Whether a character separates tokens or parts of scalars. -/
def isSeparator (c : Char) : Bool := isInlineBlank c || isBreak c

/-- Whether a text is at its end or goes on with a separator. -/
def endsToken (text : List Char) : Bool := text.head?.all isSeparator

/-- Whether a text is at its end or goes on with a space or the end of a line. -/
def endsWord (text : List Char) : Bool := text.head?.all fun c => c = ' ' || isBreak c

/-- Whether a text starts with three equal marks that divide documents. -/
def startsDivider (text : List Char) : Bool :=
  (['-', '-', '-'].isPrefixOf text || ['.', '.', '.'].isPrefixOf text) && endsToken (text.drop 3)

namespace Source

/-- The cursor at the start of a text. -/
def start (text : List Char) : Source := ⟨0, 0, 0, text⟩

/-- The cursor behind the next character. -/
def next (source : Source) : Source :=
  match source.rest with
  | [] => source
  | c :: rest =>
    if isBreak c then ⟨source.offset + 1, source.line + 1, 0, rest⟩
    else
      let width := if c.toNat = 0xFEFF then 0 else 1
      ⟨source.offset + 1, source.line, source.column + width, rest⟩

/-- The cursor some characters further on. -/
def skip (source : Source) : Nat → Source
  | 0 => source
  | count + 1 => source.next.skip count

/-- The cursor where only the end of its text is left. -/
def skipTo (source : Source) (rest : List Char) : Source :=
  source.skip (source.rest.length - rest.length)

/-- The cursor behind the characters of a class. -/
def skipWhile (source : Source) (isSkipped : Char → Bool) : Source :=
  source.skip (source.rest.takeWhile isSkipped).length

/-- The next character. -/
def head? (source : Source) : Option Char := source.rest.head?

/-- Whether the next character is a given one. -/
def isAt (source : Source) (c : Char) : Bool := source.head? = some c

/-- What the end of the line is read as, and the cursor behind it, if it is here. -/
def break? (source : Source) : Option (Char × Source) :=
  match source.rest with
  | c :: _ => if isBreak c then some (breakChar c, source.next) else none
  | [] => none

/-- The cursor at the end of a comment, if one starts here. -/
def skipComment (source : Source) : Source :=
  if source.isAt '#' then source.skipWhile (!isBreak ·) else source

/-- The cursor at the start of the next line, if no more than a comment precedes it. -/
def endLine? (source : Source) : Option Source :=
  let here := (source.skipWhile (· = ' ')).skipComment
  match here.break? with
  | some (_, next) => some next
  | none => if here.rest.isEmpty then some here else none

end Source

end ManifestLint.Yaml
