import ManifestLint.Text.CaseTable

/-!
# Lower case

Names in an index are compared in lower case, by the full lower-casing of Unicode: a dotted
capital I becomes two characters, and a capital sigma is written `ς` at the end of a word and `σ`
elsewhere.

* `lower_nil`, `lowerFrom_ascii`: on ASCII text the full rule is core's `Char.toLower`, character
  by character.
-/

namespace ManifestLint.Text

/-- The lower-case form of a character that stands alone. -/
def lowerChar (c : Char) : List Char :=
  if c.toNat < 0x80 then [c.toLower]
  else if c.toNat = 0x130 then ['i', Char.ofNat 0x307]
  else
    match lowerRuns.find? fun run =>
      run.1 ≤ c.toNat && c.toNat ≤ run.2.1 && (c.toNat - run.1) % run.2.2.1 == 0 with
    | some run => [Char.ofNat (c.toNat + run.2.2.2).toNat]
    | none => [c]

/-- Whether the next character that counts for a word's end is a cased one. -/
def meetsCased (text : List Char) : Bool :=
  match text.dropWhile (inRanges caseIgnorableRanges) with
  | [] => false
  | c :: _ => inRanges casedRanges c

/-- Lower case of a text that follows `before`, which is given backwards. -/
def lowerFrom (before : List Char) : List Char → List Char
  | [] => []
  | c :: rest =>
    (if c.toNat = 0x3A3 then
      [Char.ofNat (if meetsCased before && !meetsCased rest then 0x3C2 else 0x3C3)]
    else lowerChar c) ++ lowerFrom (c :: before) rest

/-- The lower-case form of a text. -/
def lowerChars (text : List Char) : List Char := lowerFrom [] text

/-- The lower-case form of a text. -/
def lower (text : String) : String := .ofList (lowerChars text.toList)

theorem lowerFrom_ascii (before text : List Char) (ascii : ∀ c ∈ text, c.toNat < 0x80) :
    lowerFrom before text = text.map Char.toLower := by
  induction text generalizing before with
  | nil => rfl
  | cons c rest ih =>
    have small : c.toNat < 0x80 := ascii c (by simp)
    have notSigma : c.toNat ≠ 0x3A3 := by omega
    have restAscii : ∀ d ∈ rest, d.toNat < 0x80 := fun d member => ascii d (by simp [member])
    simp [lowerFrom, lowerChar, small, notSigma, ih (c :: before) restAscii]

theorem lower_nil : lower "" = "" := rfl

end ManifestLint.Text
