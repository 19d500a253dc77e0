import ManifestLint.Fetching.LabelTable
import ManifestLint.Text.Composition
import ManifestLint.Text.Punycode

/-!
# Labels of host names

The name of a host is a row of labels.  A label has letters of small case, digits and hyphens, where
letters and digits may be of many scripts; a few characters are allowed only beside certain others.
Where a label has characters that are written from right to left, the directions of all its
characters have to fit.  Such names are written with ASCII characters for the network.

* `isLabel` tells what a label is.
* `ofLabels?` is a whole name with ASCII characters.
-/

namespace ManifestLint.HostName

open ManifestLint.Text

/-- The directions in which characters are written.  Numbers are written from left to right inside
of either direction, and marks go with the character before them. -/
inductive Direction where
  | left
  | right
  | number
  | arabicNumber
  | neutral
  | mark
  deriving DecidableEq, Repr

/-- Whether a character is an Arabic digit, as they are written in the west of Asia. -/
def isArabicDigit (c : Char) : Bool := inRanges [(0x660, 0x669)] c

/-- Whether a character is an Arabic digit, as they are written further east. -/
def isEasternDigit (c : Char) : Bool := inRanges [(0x6F0, 0x6F9)] c

/-- Whether a character is one of the two that join their neighbours or keep them from joining. -/
def isJoiner (c : Char) : Bool := inRanges [(0x200C, 0x200D)] c

/-- The direction of a character, if it may stand in a label at all. -/
def direction? (c : Char) : Option Direction :=
  if c.isDigit || isEasternDigit c then some .number
  else if isArabicDigit c || inRanges [(0x10D30, 0x10D39)] c then some .arabicNumber
  else if c = '-' || isJoiner c || inRanges neutrals c then some .neutral
  else if inRuns leftLetters c || inRuns leftMarks c then some .left
  else if inRuns rightLetters c then some .right
  else if inRuns marks c then some .mark
  else none

/-- Whether a character is a mark, which cannot start a label. -/
def isMark (c : Char) : Bool := inRuns marks c || inRuns leftMarks c

/-- Whether characters join across one between them. -/
def isTransparent (c : Char) : Bool := inRuns marks c || inRanges otherTransparent c

/-- Whether a joiner may stand behind some characters, given backwards, and before others.  It may
behind the mark that drops a vowel; the one that keeps from joining may also stand where its
neighbours would join. -/
def joinerFits (c : Char) (before behind : List Char) : Bool :=
  before.head?.any (markClass · = 9)
    || (c.toNat = 0x200C
      && ((before.dropWhile isTransparent).head?.any fun d =>
        inRanges joinsBoth d || inRanges joinsBehind d)
      && ((behind.dropWhile isTransparent).head?.any fun d =>
        inRanges joinsBoth d || inRanges joinsBefore d))

/-- Whether a character may stand behind some characters, given backwards, and before others. -/
def fitsBetween (c : Char) (before behind : List Char) : Bool :=
  let others := before ++ behind
  if isJoiner c then joinerFits c before behind
  else if c.toNat = 0xB7 then before.head? = some 'l' && behind.head? = some 'l'
  else if c.toNat = 0x375 then behind.head?.any (inRanges greek)
  else if c.toNat ∈ [0x5F3, 0x5F4] then before.head?.any (inRanges hebrew)
  else if c.toNat = 0x30FB then others.any (inRanges japanese)
  else if isArabicDigit c then !others.any isEasternDigit
  else if isEasternDigit c then !others.any isArabicDigit
  else true

/-- Whether every character may stand where it does, behind the characters given backwards. -/
def allFit (before : List Char) : List Char → Bool
  | [] => true
  | c :: rest => (direction? c).isSome && fitsBetween c before rest && allFit (c :: before) rest

/-- Whether directions fit together.  If any of them is from right to left, the first one is, none
is from left to right, the last one apart from marks is not neutral, and digits are of one kind. -/
def directionsFit (directions : List Direction) : Bool :=
  let last := (directions.reverse.dropWhile (· = .mark)).head?
  (.right ∉ directions && .arabicNumber ∉ directions)
    || (directions.head? = some .right && .left ∉ directions && last.any (· ≠ .neutral)
      && !(.number ∈ directions && .arabicNumber ∈ directions))

/-- Whether hyphens stand neither at the ends of a label nor at its third and fourth place. -/
def hyphensFit (label : List Char) : Bool :=
  label.head? ≠ some '-' && label.getLast? ≠ some '-' && (label.drop 2).take 2 ≠ ['-', '-']

/-- Whether a text is a label. -/
def isLabel (text : List Char) : Bool :=
  !text.isEmpty && hyphensFit text && !text.head?.any isMark && allFit [] text
    && isComposed text && directionsFit (text.filterMap direction?)

/-- What a label starts with that stands for one with other characters. -/
def encodedStart : List Char := ['x', 'n', '-', '-']

/-- Whether a text of ASCII characters is a label, or stands for one. -/
def isAsciiLabel (text : List Char) : Bool :=
  if encodedStart.isPrefixOf text then
    let encoded := text.drop encodedStart.length
    encoded.getLast?.any (· ≠ '-') && (decodePunycode? encoded).any isLabel
  else isLabel text

/-- A label with ASCII characters. -/
def asciiLabel? (text : List Char) : Option (List Char) :=
  let label := if text.all isAscii then text else encodedStart ++ encodePunycode text
  let isGood := if text.all isAscii then isAsciiLabel text else isLabel text
  if isGood && label.length ≤ 63 then some label else none

/-- Whether a character divides labels. -/
def isDot (c : Char) : Bool := c.toNat ∈ [0x2E, 0x3002, 0xFF0E, 0xFF61]

/-- A name with ASCII characters, if it consists of labels.  It may end with a point. -/
def ofLabels? (name : List Char) : Option (List Char) := do
  let labels := (name.map fun c => if isDot c then '.' else c).splitOn '.'
  let isClosed := labels.getLast? = some []
  let encoded ← (if isClosed then labels.dropLast else labels).mapM asciiLabel?
  let whole := ['.'].intercalate (encoded ++ if isClosed then [[]] else [])
  if whole.length ≤ (if isClosed then 254 else 253) then return whole else none

end ManifestLint.HostName
