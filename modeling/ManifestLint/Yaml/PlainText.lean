import ManifestLint.Yaml.Quoted

/-!
# Texts of plain scalars

A scalar without quotes ends before a colon or number sign that stands apart, and inside flow
collections before their marks.  It may go on in further lines, which have to be indented, and none
of which divides documents; line ends are folded as between quotes.

* `startsPlain` tells where a scalar can start, `plainScalar` reads one.
-/

namespace ManifestLint.Yaml

/-- The marks that end a plain scalar inside a flow collection. -/
def isFlowMark (c : Char) : Bool := c ∈ [',', '?', '[', ']', '{', '}']

/-- Whether a plain scalar can start here.  Most marks cannot start one; a hyphen can if a word
follows it, and outside flow collections so can a question mark and a colon. -/
def startsPlain (inFlow : Bool) : List Char → Bool
  | [] => false
  | c :: rest =>
    if c = '-' then !endsToken rest
    else if c = '?' || c = ':' then !inFlow && !endsToken rest
    else !isSeparator c && c ∉ ",[]\x7b\x7d#&*!|>'\"%@".toList && c.toNat ≠ 0x60

/-- Whether a colon that precedes a text ends a scalar. -/
def endsAtColon (inFlow : Bool) (rest : List Char) : Bool :=
  endsToken rest || (inFlow && rest.head?.any fun c => c ∈ [',', '[', ']', '{', '}'])

/-- The part of a plain scalar up to the next blank, and what follows it. -/
def plainWord (inFlow : Bool) : List Char → List Char × List Char
  | [] => ([], [])
  | c :: rest =>
    if isSeparator c || (c = ':' && endsAtColon inFlow rest) || (inFlow && isFlowMark c) then
      ([], c :: rest)
    else
      let (word, last) := plainWord inFlow rest
      (c :: word, last)

/-- The line ends at the start of a text, with spaces between them dropped, and what follows; there
are none if documents are divided there. -/
def plainBreaks : (steps : Nat) → List Char → Option (List Char) × List Char
  | 0, text => (none, text)
  | steps + 1, text =>
    if startsDivider text then (none, text)
    else
      match text.dropWhile (· = ' ') with
      | c :: rest =>
        if isBreak c then
          let (breaks, last) := plainBreaks steps rest
          (breaks.map (breakChar c :: ·), last)
        else (some [], c :: rest)
      | [] => (some [], [])

/-- What the blanks and line ends between two parts of a scalar are read as, what follows them, and
whether a line ended.  They are nothing where the scalar cannot go on. -/
def plainGap (text : List Char) : List Char × List Char × Bool :=
  match text.dropWhile (· = ' ') with
  | c :: rest =>
    if isBreak c then
      let (breaks, last) := plainBreaks (rest.length + 1) rest
      ((breaks.map (joint (breakChar c))).getD [], last, true)
    else (text.takeWhile (· = ' '), c :: rest, false)
  | [] => (text, [], false)

/-- Reads a plain scalar behind a gap, and tells whether a line ended behind its last part.  Outside
flow collections further lines start in column `least` or behind it. -/
def plainParts (inFlow : Bool) (least : Int) :
    (steps : Nat) → (gap : List Char) → (ended : Bool) → Source → List Char × Bool × Source
  | 0, _, ended, source => ([], ended, source)
  | steps + 1, gap, ended, source =>
    let (word, rest) := plainWord inFlow source.rest
    if word.isEmpty || source.isAt '#' then ([], ended, source)
    else
      let (nextGap, rest, broken) := plainGap rest
      let next := source.skipTo rest
      if nextGap.isEmpty || next.isAt '#' || (!inFlow && next.column < least) then
        (gap ++ word, broken, next)
      else
        let (more, ended, last) := plainParts inFlow least steps nextGap broken next
        (gap ++ word ++ more, ended, last)

/-- The plain scalar that starts here, whether a line ended behind it, and the cursor there. -/
def plainScalar (inFlow : Bool) (least : Int) (source : Source) : List Char × Bool × Source :=
  plainParts inFlow least (source.rest.length + 1) [] false source

end ManifestLint.Yaml
