/-!
# Runs of code points

A Unicode property is a list of runs of code points. Membership is a linear search: the texts
that reach a table are short, and a plain `List.any` is easy to reason about.
-/

namespace LoadOrder.Text

/-- A run of code points, both ends included. -/
structure CodeRange where
  first : Nat
  last : Nat
deriving Repr, DecidableEq

/-- Whether the character lies in the run. -/
def CodeRange.contains (range : CodeRange) (c : Char) : Bool :=
  range.first ≤ c.toNat && c.toNat ≤ range.last

/-- Whether one of the runs holds the character. -/
def inRanges (table : List CodeRange) (c : Char) : Bool :=
  table.any (·.contains c)

/-! ### Characterization -/

theorem CodeRange.contains_iff {range : CodeRange} {c : Char} :
    range.contains c = true ↔ range.first ≤ c.toNat ∧ c.toNat ≤ range.last := by
  simp [CodeRange.contains]

theorem inRanges_iff {table : List CodeRange} {c : Char} :
    inRanges table c = true ↔ ∃ range ∈ table, range.first ≤ c.toNat ∧ c.toNat ≤ range.last := by
  simp [inRanges, CodeRange.contains_iff]

end LoadOrder.Text
