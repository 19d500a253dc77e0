import ManifestLint.Text.Quoted
import ManifestLint.Toml.Position

/-!
# Tokens

What a manifest is cut into.  Every token keeps its text and the positions of its two ends, so that
findings can point at the source.  The reader of manifests looks at categories, which are coarser
than kinds: all strings, all integers and all dates and times are one category each.
-/

namespace ManifestLint.Toml

/-- The coarse classes of tokens. -/
inductive Category where
  | newline | whitespace | comment | equals | dot | key | string | boolean | dateTime | float
  | integer | leftSquare | rightSquare | comma | leftCurly | rightCurly | unknown
  deriving DecidableEq, Repr

/-- The shapes of tokens. -/
inductive TokenKind where
  | newline | whitespace | comment | equals | dot | unquotedKey | quotedKey | basicString
  | literalString | basicMultilineString | literalMultilineString | true | false | decimalInt
  | hexInt | octInt | binInt | float | specialFloat | offsetDateTime | localDateTime | localDate
  | localTime | leftSquare | rightSquare | comma | leftCurly | rightCurly | unknown
  deriving DecidableEq, Repr

/-- The class of a shape. -/
def TokenKind.category : TokenKind → Category
  | newline => .newline
  | whitespace => .whitespace
  | comment => .comment
  | equals => .equals
  | dot => .dot
  | unquotedKey | quotedKey => .key
  | basicString | literalString | basicMultilineString | literalMultilineString => .string
  | true | false => .boolean
  | decimalInt | hexInt | octInt | binInt => .integer
  | float | specialFloat => .float
  | offsetDateTime | localDateTime | localDate | localTime => .dateTime
  | leftSquare => .leftSquare
  | rightSquare => .rightSquare
  | comma => .comma
  | leftCurly => .leftCurly
  | rightCurly => .rightCurly
  | unknown => .unknown

/-- A token: its shape, its text and where it stands. -/
structure Token where
  kind : TokenKind
  text : List Char
  start : Position
  stop : Position
  deriving DecidableEq, Repr

/-- The class of a token. -/
def Token.category (token : Token) : Category := token.kind.category

/-- Where a token stands. -/
def Token.span (token : Token) : Span := ⟨token.start, token.stop⟩

/-- Whether a token only separates others. -/
def Token.isTrivia (token : Token) : Bool :=
  token.category = .newline || token.category = .whitespace || token.category = .comment

/-- The tokens that carry meaning. -/
def significant (tokens : List Token) : List Token := tokens.filter fun token => !token.isTrivia

/-- What can be wrong with the text of a manifest. -/
inductive Problem where
  | unexpectedSquare
  | tableOutsideValue
  | unexpectedCurly
  | unterminatedString
  | unexpectedCharacter (c : Char)
  | invalidValue (text : List Char)
  | unclosed
  deriving DecidableEq, Repr

/-- The wording of a problem. -/
def Problem.message : Problem → String
  | unexpectedSquare => "Unexpected ']'"
  | tableOutsideValue => "Inline table outside of a value"
  | unexpectedCurly => "Unexpected '\x7d'"
  | unterminatedString => "Unterminated string"
  | unexpectedCharacter c => "Unexpected character " ++ .ofList (Text.quotedChars [c])
  | invalidValue text => "Invalid value " ++ .ofList (Text.quotedChars text)
  | unclosed => "Unclosed array or inline table"

/-- A problem and where it was found. -/
structure LexicalError where
  problem : Problem
  position : Position
  deriving DecidableEq, Repr

end ManifestLint.Toml
