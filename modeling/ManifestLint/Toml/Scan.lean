import ManifestLint.Toml.Shape

/-!
# Cutting a document into tokens

The scanner looks at the next characters and at its mode: whether a value is awaited, and which
arrays and inline tables are open.  Words and strings where a key may stand become keys; after an
equals sign words become values, which are told apart by shape, until the line or the member ends.

* `lexeme` decides on the next token.  It says how many characters follow the first one, so the
  token's text and the rest of the document always add up to what was there.
* `scan` repeats that to the end of the document and gathers the problems it meets.
-/

namespace ManifestLint.Toml

/-- A list that is open for values. -/
inductive Context where
  | array
  | table
  deriving DecidableEq, Repr

/-- What the scanner remembers between tokens: the open lists, innermost first, and whether a value
is awaited. -/
structure Mode where
  contexts : List Context
  value : Bool
  deriving DecidableEq, Repr

/-- The mode at the start of a document. -/
def Mode.initial : Mode := ⟨[], false⟩

/-- The next token of a document: its kind, how many characters it has beyond the first, the mode
behind it and the problem it is, if any. -/
structure Lexeme where
  kind : TokenKind
  extra : Nat
  mode : Mode
  problem : Option Problem

/-- A character that can stand in a bare key. -/
def isKeyChar (c : Char) : Bool := c.isAlphanum || c = '_' || c = '-'

/-- A character that can stand in a bare value. -/
def isValueChar (c : Char) : Bool := isKeyChar c || c = '+' || c = '.' || c = ':'

/-- A blank within a line. -/
def isInlineBlank (c : Char) : Bool := c = ' ' || c = '\t'

/-- Whether a line ends here: at a line feed, alone or after a carriage return. -/
def atLineEnd : List Char → Bool
  | '\n' :: _ => true
  | '\r' :: '\n' :: _ => true
  | _ => false

/-- The length of a comment up to the end of its line. -/
def commentLength : List Char → Nat
  | [] => 0
  | c :: rest => if atLineEnd (c :: rest) then 0 else commentLength rest + 1

/-- The length of a string behind its opening quote, and whether it is closed on its line.  In a
basic string a backslash takes the next character of the line with it. -/
def lineStringLength (quote : Char) (basic : Bool) : List Char → Nat × Bool
  | [] => (0, false)
  | c :: rest =>
    if atLineEnd (c :: rest) then (0, false)
    else if basic && c = '\\' then
      match rest with
      | [] => (1, false)
      | d :: more =>
        if atLineEnd (d :: more) then (1, false)
        else
          let (length, closed) := lineStringLength quote basic more
          (length + 2, closed)
    else if c = quote then (1, true)
    else
      let (length, closed) := lineStringLength quote basic rest
      (length + 1, closed)

/-- The length of a string of several lines behind its three opening quotes, and whether it is
closed.  Up to two more quotes may stand right behind the closing three. -/
def multilineStringLength (quote : Char) (basic : Bool) : List Char → Nat × Bool
  | [] => (0, false)
  | c :: rest =>
    if [quote, quote, quote].isPrefixOf (c :: rest) then
      (3 + ((rest.drop 2).take 2 |>.takeWhile (· = quote)).length, true)
    else if basic && c = '\\' then
      match rest with
      | [] => (1, false)
      | _ :: more =>
        let (length, closed) := multilineStringLength quote basic more
        (length + 2, closed)
    else
      let (length, closed) := multilineStringLength quote basic rest
      (length + 1, closed)

/-- The string that starts with a quote. -/
def stringLexeme (mode : Mode) (quote : Char) (rest : List Char) : Lexeme :=
  let basic : Bool := quote = '"'
  let multiline : Bool := [quote, quote].isPrefixOf rest
  let (length, closed) :=
    if multiline then
      let (length, closed) := multilineStringLength quote basic (rest.drop 2)
      (length + 2, closed)
    else lineStringLength quote basic rest
  let kind :=
    if !mode.value then .quotedKey
    else
      match basic, multiline with
      | true, true => .basicMultilineString
      | false, true => .literalMultilineString
      | true, false => .basicString
      | false, false => .literalString
  ⟨kind, length, mode, if closed then none else some .unterminatedString⟩

/-- The length of a bare value behind its first character.  A date may be followed by a space and a
time. -/
def valueLength (c : Char) (rest : List Char) : Nat :=
  let word := rest.takeWhile isValueChar
  match rest.drop word.length with
  | ' ' :: d :: more =>
    if isLocalDate (c :: word) && d.isDigit then
      word.length + 1 + ((d :: more).takeWhile isValueChar).length
    else word.length
  | _ => word.length

/-- The bare value that starts with a character. -/
def valueLexeme (mode : Mode) (c : Char) (rest : List Char) : Lexeme :=
  let length := valueLength c rest
  let text := c :: rest.take length
  match classify text with
  | some kind => ⟨kind, length, mode, none⟩
  | none => ⟨.unknown, length, mode, some (.invalidValue text)⟩

/-- The mode behind a closing square bracket, and the problem if no array is open. -/
def closeSquare (mode : Mode) : Mode × Option Problem :=
  if !mode.value then (mode, none)
  else
    match mode.contexts with
    | .array :: outer => ({ mode with contexts := outer }, none)
    | _ => (mode, some .unexpectedSquare)

/-- The mode behind a closing curly brace, and the problem if no table is open. -/
def closeCurly (mode : Mode) : Mode × Option Problem :=
  match mode.contexts with
  | .table :: outer => (⟨outer, true⟩, none)
  | _ => (mode, some .unexpectedCurly)

/-- The mode behind a line end: outside of lists no value is awaited any more. -/
def Mode.endLine (mode : Mode) : Mode :=
  if mode.contexts.isEmpty then { mode with value := false } else mode

/-- The next token of a document that starts with the given character. -/
def lexeme (mode : Mode) (c : Char) (rest : List Char) : Lexeme :=
  if atLineEnd (c :: rest) then
    ⟨.newline, if c = '\r' then 1 else 0, mode.endLine, none⟩
  else if isInlineBlank c then
    ⟨.whitespace, (rest.takeWhile isInlineBlank).length, mode, none⟩
  else if c = '#' then ⟨.comment, commentLength rest, mode, none⟩
  else if c = '=' then ⟨.equals, 0, { mode with value := true }, none⟩
  else if c = ',' then
    let value := if mode.contexts.head? = some .table then false else mode.value
    ⟨.comma, 0, { mode with value }, none⟩
  else if c = '[' then
    let contexts := if mode.value then .array :: mode.contexts else mode.contexts
    ⟨.leftSquare, 0, { mode with contexts }, none⟩
  else if c = ']' then
    let (after, problem) := closeSquare mode
    ⟨.rightSquare, 0, after, problem⟩
  else if c = '\x7b' then
    if mode.value then ⟨.leftCurly, 0, ⟨.table :: mode.contexts, false⟩, none⟩
    else ⟨.leftCurly, 0, mode, some .tableOutsideValue⟩
  else if c = '\x7d' then
    let (after, problem) := closeCurly mode
    ⟨.rightCurly, 0, after, problem⟩
  else if c = '"' || c = '\'' then stringLexeme mode c rest
  else if mode.value && isValueChar c then valueLexeme mode c rest
  else if !mode.value && isKeyChar c then
    ⟨.unquotedKey, (rest.takeWhile isKeyChar).length, mode, none⟩
  else if c = '.' then ⟨.dot, 0, mode, none⟩
  else ⟨.unknown, 0, mode, some (.unexpectedCharacter c)⟩

/-- A scanned document: its tokens and its problems, both in the order of the text. -/
structure Scan where
  tokens : List Token
  errors : List LexicalError
  deriving DecidableEq, Repr

/-- Scans a text that starts at a position, in a mode. -/
def scanFrom (mode : Mode) (start : Position) : List Char → Scan
  | [] => ⟨[], if mode.contexts.isEmpty then [] else [⟨.unclosed, start⟩]⟩
  | c :: rest =>
    let next := lexeme mode c rest
    let text := c :: rest.take next.extra
    let stop := start.after text
    let others := scanFrom next.mode stop (rest.drop next.extra)
    ⟨⟨next.kind, text, start, stop⟩ :: others.tokens,
      (next.problem.map (⟨·, start⟩)).toList ++ others.errors⟩
termination_by text => text.length
decreasing_by
  simp only [List.length_drop, List.length_cons]
  omega

/-- Scans a document. -/
def scan (text : List Char) : Scan := scanFrom .initial .origin text

end ManifestLint.Toml
