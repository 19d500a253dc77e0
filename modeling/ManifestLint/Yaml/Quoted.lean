import ManifestLint.Text.Digit
import ManifestLint.Text.Wide
import ManifestLint.Yaml.Fault
import ManifestLint.Yaml.Source

/-!
# Quoted scalars

Between single quotes only a doubled quote stands for something else; between double quotes a
backslash starts an escape.  A scalar may run over several lines, none of which divides documents:
blanks around a line end are dropped, one line feed becomes a space, and of several all but the
first are kept.

* `quotedScalar` reads a scalar.
-/

namespace ManifestLint.Yaml

/-- The line ends at the start of a text, with blanks between them dropped, and what follows. -/
def foldedBreaks : (steps : Nat) → List Char → Except Fault (List Char × List Char)
  | 0, _ => .error .malformed
  | steps + 1, text =>
    if startsDivider text then .error .malformed
    else
      match text.dropWhile isInlineBlank with
      | c :: rest =>
        if isBreak c then
          (foldedBreaks steps rest).map fun (breaks, last) => (breakChar c :: breaks, last)
        else .ok ([], c :: rest)
      | [] => .ok ([], [])

/-- What the end of a line and the line ends behind it are read as. -/
def joint (first : Char) (others : List Char) : List Char :=
  if first ≠ '\n' then first :: others else if others.isEmpty then [' '] else others

/-- The character that a one-letter escape stands for. -/
def escape? (c : Char) : Option Char :=
  match c with
  | '0' => some '\x00'
  | 'a' => some '\x07'
  | 'b' => some '\x08'
  | 't' => some '\t'
  | '\t' => some '\t'
  | 'n' => some '\n'
  | 'v' => some '\x0b'
  | 'f' => some '\x0c'
  | 'r' => some '\r'
  | 'e' => some '\x1b'
  | ' ' => some ' '
  | '"' => some '"'
  | '\\' => some '\\'
  | '/' => some '/'
  | 'N' => some (.ofNat 0x85)
  | '_' => some (.ofNat 0xA0)
  | 'L' => some (.ofNat 0x2028)
  | 'P' => some (.ofNat 0x2029)
  | _ => none

/-- How many hexadecimal digits follow the letter of an escape by code. -/
def codeLength? : Char → Option Nat
  | 'x' => some 2
  | 'u' => some 4
  | 'U' => some 8
  | _ => none

/-- The character with the code that hexadecimal digits denote. -/
def codeChar (digits : List Char) (length : Nat) : Except Fault Char :=
  match digits.foldlM (fun code c => (Text.hexValue? c).map (16 * code + ·)) 0 with
  | none => .error .malformed
  | some code =>
    if digits.length ≠ length then .error .malformed
    else if 0x7FFFFFFF < code then .error .codeOverflow
    else if 0x10FFFF < code then .error .noCharacter
    else .ok (Text.codePoint code)

/-- What the escape behind a backslash stands for, and what follows it. -/
def readEscape (text : List Char) : Except Fault (List Char × List Char) :=
  match text with
  | [] => .error .malformed
  | e :: rest =>
    match escape? e, codeLength? e with
    | some plain, _ => .ok ([plain], rest)
    | none, some length =>
      (codeChar (rest.take length) length).map fun c => ([c], rest.drop length)
    | none, none =>
      if isBreak e then foldedBreaks (rest.length + 1) rest else .error .malformed

/-- What blanks and line ends are read as, and what follows them. -/
def readGap (text : List Char) : Except Fault (List Char × List Char) :=
  match text.dropWhile isInlineBlank with
  | [] => .error .malformed
  | c :: rest =>
    if isBreak c then
      (foldedBreaks (rest.length + 1) rest).map fun (breaks, last) =>
        (joint (breakChar c) breaks, last)
    else .ok (text.takeWhile isInlineBlank, c :: rest)

/-- Reads the inside of a scalar between `quote` marks, up to behind the closing one. -/
def quotedBody (quote : Char) : (steps : Nat) → List Char → Except Fault (List Char × List Char)
  | 0, _ => .error .malformed
  | _ + 1, [] => .error .malformed
  | steps + 1, c :: rest => do
    if c = quote then
      if quote = '\'' && rest.head? = some '\'' then
        let (body, last) ← quotedBody quote steps (rest.drop 1)
        return ('\'' :: body, last)
      else return ([], rest)
    else
      let (part, next) ←
        if c = '\\' && quote = '"' then readEscape rest
        else if isSeparator c then readGap (c :: rest)
        else pure ([c], rest)
      let (body, last) ← quotedBody quote steps next
      return (part ++ body, last)

/-- The scalar that starts with a quote, and the cursor behind it. -/
def quotedScalar (source : Source) : Except Fault (List Char × Source) :=
  match source.rest with
  | [] => .error .malformed
  | quote :: inside =>
    (quotedBody quote (inside.length + 1) inside).map fun (body, rest) =>
      (body, source.skipTo rest)

end ManifestLint.Yaml
