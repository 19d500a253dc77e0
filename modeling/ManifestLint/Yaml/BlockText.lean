import ManifestLint.Yaml.Fault
import ManifestLint.Yaml.Source

/-!
# Block scalars

A block scalar consists of the indented lines below its header.  A bar keeps the ends of the lines;
a greater-than sign folds the lines, except those that start with a blank.  The header may give the
indentation, and whether the last line end and those behind it are dropped or kept.

* `blockScalar` reads a scalar.
-/

namespace ManifestLint.Yaml

/-- What a header says: whether lines are folded, whether all line ends at the end are kept or none,
and how much the lines are indented. -/
structure BlockHeader where
  folded : Bool
  keepsAll : Option Bool := none
  indent : Option Nat := none

namespace BlockHeader

/-- The header with what a mark adds, if it can: a sign says which line ends are kept, a digit is
the indentation. -/
def add? (header : BlockHeader) (c : Char) : Option BlockHeader :=
  if c = '+' || c = '-' then
    if header.keepsAll.isSome then none else some { header with keepsAll := some (c = '+') }
  else if '1' ≤ c && c ≤ '9' then
    if header.indent.isSome then none
    else some { header with indent := some (c.toNat - '0'.toNat) }
  else none

end BlockHeader

/-- Reads the marks of a header. -/
def readHeader (header : BlockHeader) (steps : Nat) (source : Source) : BlockHeader × Source :=
  match steps, source.head?.bind header.add? with
  | steps + 1, some header => readHeader header steps source.next
  | _, _ => (header, source)

/-- Skips spaces up to a column, and line ends, which are collected. -/
def blockBreaks (indent : Nat) : (steps : Nat) → Source → List Char × Source
  | 0, source => ([], source)
  | steps + 1, source =>
    let blanks := (source.rest.takeWhile (· = ' ')).length
    let here := source.skip (min blanks (indent - source.column))
    match here.break? with
    | some (c, next) =>
      let (breaks, last) := blockBreaks indent steps next
      (c :: breaks, last)
    | none => ([], here)

/-- Skips spaces and line ends before the first line, and finds the greatest column on the way. -/
def blockStart : (steps deepest : Nat) → Source → List Char × Nat × Source
  | 0, deepest, source => ([], deepest, source)
  | steps + 1, deepest, source =>
    let here := source.skipWhile (· = ' ')
    let deepest := if here.offset = source.offset then deepest else max deepest here.column
    match here.break? with
    | some (c, next) =>
      let (breaks, deepest, last) := blockStart steps deepest next
      (c :: breaks, deepest, last)
    | none => ([], deepest, here)

/-- Whether the next line belongs to a scalar. -/
def hasLine (indent : Nat) (source : Source) : Bool :=
  source.column = indent && !source.rest.isEmpty

/-- Reads the lines of a scalar; `breaks` are the empty lines before the next one. -/
def blockLines (header : BlockHeader) (indent : Nat) :
    (steps : Nat) → (breaks : List Char) → Source → List Char × Source
  | 0, _, source => ([], source)
  | steps + 1, breaks, source =>
    let line := source.rest.takeWhile (!isBreak ·)
    let behind := source.skip line.length
    let (lineEnd, next) :=
      match behind.break? with
      | some (c, next) => ([c], next)
      | none => ([], behind)
    let (following, next) := blockBreaks indent (next.rest.length + 1) next
    if hasLine indent next then
      let joins := header.folded && lineEnd = ['\n'] && !line.head?.any isInlineBlank
        && !next.head?.any isInlineBlank
      let joined := if joins then if following.isEmpty then [' '] else [] else lineEnd
      let (more, last) := blockLines header indent steps following next
      (breaks ++ line ++ joined ++ more, last)
    else
      let kept :=
        match header.keepsAll with
        | some true => lineEnd ++ following
        | some false => []
        | none => lineEnd
      (breaks ++ line ++ kept, next)

/-- The scalar whose header starts here, below the node that is indented by `outer`, and the cursor
behind it. -/
def blockScalar (outer : Int) (source : Source) : Except Fault (List Char × Source) :=
  let (header, behind) := readHeader { folded := source.isAt '>' } 2 source.next
  if !endsWord behind.rest then .error .malformed
  else
    match behind.endLine? with
    | none => .error .malformed
    | some body =>
      let least := (max 1 (outer + 1)).toNat
      let (breaks, indent, first) :=
        match header.indent with
        | some more =>
          let indent := least + more - 1
          let (breaks, first) := blockBreaks indent (body.rest.length + 1) body
          (breaks, indent, first)
        | none =>
          let (breaks, deepest, first) := blockStart (body.rest.length + 1) 0 body
          (breaks, max least deepest, first)
      if hasLine indent first then
        .ok (blockLines header indent (first.rest.length + 1) breaks first)
      else .ok (if header.keepsAll = some true then breaks else [], first)

end ManifestLint.Yaml
