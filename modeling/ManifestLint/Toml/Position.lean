/-!
# Positions in a document

A position is a line and a column, both counted from zero; the column counts characters.  Only a
line feed starts a new line.  Positions are compared line first, and a span contains both its ends.

* `Position.after_append`: walking over a text is walking over its parts in turn.
-/

namespace ManifestLint.Toml

/-- A line and a column in a document. -/
structure Position where
  line : Int
  column : Int
  deriving DecidableEq, Repr

namespace Position

/-- The start of a document. -/
def origin : Position := ⟨0, 0⟩

/-- The order of positions: line first. -/
def le (a b : Position) : Bool :=
  a.line < b.line || (a.line = b.line && a.column ≤ b.column)

instance : LE Position := ⟨fun a b => a.le b = true⟩

instance (a b : Position) : Decidable (a ≤ b) := inferInstanceAs (Decidable (a.le b = true))

theorem le_iff {a b : Position} :
    a ≤ b ↔ a.line < b.line ∨ (a.line = b.line ∧ a.column ≤ b.column) := by
  simp [LE.le, le]

/-- The position behind a character. -/
def next (p : Position) (c : Char) : Position :=
  if c = '\n' then ⟨p.line + 1, 0⟩ else ⟨p.line, p.column + 1⟩

/-- The position behind a text. -/
def after (p : Position) (text : List Char) : Position := text.foldl next p

@[simp] theorem after_nil (p : Position) : p.after [] = p := rfl

theorem after_append (p : Position) (a b : List Char) :
    p.after (a ++ b) = (p.after a).after b := by
  simp [after]

end Position

/-- A stretch of a document between two positions. -/
structure Span where
  start : Position
  stop : Position
  deriving DecidableEq, Repr

namespace Span

/-- The span of what stands nowhere in the document. -/
def empty : Span := ⟨.origin, .origin⟩

/-- Whether a position lies in the span, its ends included. -/
def contains (span : Span) (p : Position) : Bool := span.start ≤ p && p ≤ span.stop

/-- Whether another span lies in the span. -/
def containsSpan (span other : Span) : Bool :=
  span.start ≤ other.start && other.stop ≤ span.stop

end Span

end ManifestLint.Toml
