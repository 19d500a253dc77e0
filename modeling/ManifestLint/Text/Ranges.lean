/-!
# Ranges of code points

A property of characters that no short rule describes is given as a table of ranges of code
points.  This module holds membership in such a table; the tables themselves stand in the modules
of the properties they describe.
-/

namespace ManifestLint.Text

/-- Membership of a character in a table of ranges, each with both ends included. -/
def inRanges (ranges : List (Nat × Nat)) (c : Char) : Bool :=
  ranges.any fun range => range.1 ≤ c.toNat && c.toNat ≤ range.2

/-- Membership of a character in a table of runs, each with its first and last code point and the
distance between neighbours. -/
def inRuns (runs : List (Nat × Nat × Nat)) (c : Char) : Bool :=
  runs.any fun (first, last, step) =>
    first ≤ c.toNat && c.toNat ≤ last && (c.toNat - first) % step = 0

/-- A character is in a table exactly if some range of the table spans it. -/
theorem inRanges_iff {ranges : List (Nat × Nat)} {c : Char} :
    inRanges ranges c = true ↔ ∃ range ∈ ranges, range.1 ≤ c.toNat ∧ c.toNat ≤ range.2 := by
  simp [inRanges]

end ManifestLint.Text
