import ManifestLint.Text.Digit
import ManifestLint.Text.Utf8
import ManifestLint.Yaml.Fault
import ManifestLint.Yaml.Source

/-!
# Names, tags and directives

A node may be named, to be referred to later, and may carry a tag that says what kind of value it
is.  Directives before a document may declare abbreviations for tags.

* `nodeName`, `tag` and `directive` read what their names say.
-/

namespace ManifestLint.Yaml

/-- A tag as it is written: its abbreviation, if it has one, and the rest. -/
structure WrittenTag where
  abbreviation : Option (List Char)
  rest : List Char
  deriving DecidableEq

/-- A directive: the version of the language, an abbreviation and what it stands for, or anything
else. -/
inductive Directive where
  | version (major : Nat)
  | abbreviation (short full : List Char)
  | other
  deriving DecidableEq

/-- Whether a character may stand in a name. -/
def isNameChar (c : Char) : Bool := c.isAlphanum || c = '-' || c = '_'

/-- Whether a character may stand in a tag. -/
def isTagChar (c : Char) : Bool := c.isAlphanum || c ∈ "-;/?:@&=+$,_.!~*'()[]%".toList

/-- The name behind the mark of a node or of a reference to one, and the cursor behind it. -/
def nodeName (source : Source) : Except Fault (List Char × Source) :=
  let name := source.rest.tail.takeWhile isNameChar
  let behind := source.next.skip name.length
  let ends := behind.head?.all fun c =>
    isSeparator c || c ∈ ['?', ':', ',', ']', '}', '%', '@'] || c.toNat = 0x60
  if name.isEmpty || !ends then .error .malformed else .ok (name, behind)

/-- The bytes at the start of a text that are written as codes, and what follows them. -/
def codedBytes : List Char → Except Fault (List Nat × List Char)
  | '%' :: a :: b :: rest =>
    match Text.hexValue? a, Text.hexValue? b with
    | some high, some low =>
      (codedBytes rest).map fun (bytes, last) => ((16 * high + low) :: bytes, last)
    | _, _ => .error .malformed
  | '%' :: _ => .error .malformed
  | text => .ok ([], text)

/-- The characters of a tag at the start of a text, and what follows them. -/
def tagChars : (steps : Nat) → List Char → Except Fault (List Char × List Char)
  | 0, text => .ok ([], text)
  | _ + 1, [] => .ok ([], [])
  | steps + 1, c :: rest => do
    if c = '%' then
      let (bytes, behind) ← codedBytes (c :: rest)
      match Text.decodeUtf8 bytes with
      | .ok decoded =>
        let (more, last) ← tagChars steps behind
        return (decoded ++ more, last)
      | .error _ => throw .malformed
    else if isTagChar c then
      let (more, last) ← tagChars steps rest
      return (c :: more, last)
    else return ([], c :: rest)

/-- The rest of a tag, which may not be empty, and the cursor behind it. -/
def tagRest (source : Source) : Except Fault (List Char × Source) := do
  let (chars, rest) ← tagChars (source.rest.length + 1) source.rest
  let behind := source.skipTo rest
  if behind.offset = source.offset then throw .malformed else return (chars, behind)

/-- The abbreviation of a tag: a mark alone, or a name between two marks. -/
def tagAbbreviation (source : Source) : Except Fault (List Char × Source) :=
  let name := source.rest.tail.takeWhile isNameChar
  match source.rest.head?, source.rest.tail.drop name.length with
  | some '!', '!' :: _ => .ok ('!' :: name ++ ['!'], source.skip (name.length + 2))
  | some '!', behind =>
    if name.isEmpty && behind.head? = some ' ' then .ok (['!'], source.next)
    else .error .malformed
  | _, _ => .error .malformed

/-- The tag that starts here, and the cursor behind it. -/
def tag (source : Source) : Except Fault (WrittenTag × Source) := do
  let (tag, behind) ←
    match source.rest.tail with
    | '<' :: _ => do
      let (rest, behind) ← tagRest (source.skip 2)
      if behind.isAt '>' then pure (⟨none, rest⟩, behind.next) else throw .malformed
    | text => do
      if endsToken text then pure (⟨none, ['!']⟩, source.next)
      else
        let word := text.takeWhile fun c => c ≠ ' ' && !isBreak c
        let (short, behind) ←
          if '!' ∈ word then tagAbbreviation source else pure (['!'], source.next)
        let (rest, behind) ← tagRest behind
        pure (⟨some short, rest⟩, behind)
  if endsWord behind.rest then return (tag, behind) else throw .malformed

/-- The number that starts here, and the cursor behind it. -/
def versionNumber (source : Source) : Except Fault (Nat × Source) :=
  let digits := source.rest.takeWhile Char.isDigit
  if digits.isEmpty then .error .malformed
  else .ok (Nat.ofDigitChars 10 digits 0, source.skip digits.length)

/-- What a directive says behind its name, and the cursor behind that. -/
def directiveBody (name : List Char) (source : Source) : Except Fault (Directive × Source) := do
  let here := source.skipWhile (· = ' ')
  if name = "YAML".toList then
    let (major, behind) ← versionNumber here
    if !behind.isAt '.' then throw .malformed
    let (_, behind) ← versionNumber behind.next
    if !endsWord behind.rest then throw .malformed
    return (.version major, behind)
  else if name = "TAG".toList then
    let (short, behind) ← tagAbbreviation here
    if !behind.isAt ' ' then throw .malformed
    let (full, behind) ← tagRest (behind.skipWhile (· = ' '))
    if !endsWord behind.rest then throw .malformed
    return (.abbreviation short full, behind)
  else return (.other, source.skipWhile (!isBreak ·))

/-- The directive that starts here, and the cursor behind its line. -/
def directive (source : Source) : Except Fault (Directive × Source) := do
  let name := source.rest.tail.takeWhile isNameChar
  let behind := source.next.skip name.length
  if name.isEmpty || !endsWord behind.rest then throw .malformed
  let (directive, behind) ← directiveBody name behind
  match behind.endLine? with
  | some next => return (directive, next)
  | none => throw .malformed

end ManifestLint.Yaml
