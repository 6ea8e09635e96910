/-!
# Ranges of code points

A character class beyond ASCII is a list of closed ranges of code points. `CodeRange.any_iff` reads
membership back as a statement about the ranges.
-/

namespace Descent.Text

/-- The code points from the first number to the second, both included. -/
abbrev CodeRange := Nat × Nat

/-- Is the character inside the range? -/
def CodeRange.holds (range : CodeRange) (c : Char) : Bool :=
  range.1 ≤ c.toNat && c.toNat ≤ range.2

/-- Is the character inside one of the ranges? -/
def CodeRange.any (ranges : List CodeRange) (c : Char) : Bool :=
  List.any ranges fun range => range.holds c

theorem CodeRange.any_iff {ranges : List CodeRange} {c : Char} :
    CodeRange.any ranges c = true ↔ ∃ range ∈ ranges, range.1 ≤ c.toNat ∧ c.toNat ≤ range.2 := by
  simp [CodeRange.any, CodeRange.holds, List.any_eq_true]

end Descent.Text
