/-!
# Sets of code points

A character class is a list of ranges of code points, in order and apart from each other.
-/

namespace BuildHeader.Text

/-- The code points from `first` to `last`, both included. -/
structure CodeRange where
  first : Nat
  last : Nat
deriving DecidableEq, Repr

/-- The code point lies in the range. -/
def CodeRange.contains (range : CodeRange) (code : Nat) : Bool :=
  range.first ≤ code && code ≤ range.last

/-- The character lies in one of the ranges. -/
def inTable (table : List CodeRange) (c : Char) : Bool :=
  table.any (·.contains c.toNat)

theorem inTable_eq_true_iff {table : List CodeRange} {c : Char} :
    inTable table c = true ↔ ∃ range ∈ table, range.first ≤ c.toNat ∧ c.toNat ≤ range.last := by
  simp [inTable, CodeRange.contains]

/-- The character of a code point has this code point. -/
theorem toNat_ofNat {code : Nat} (valid : code.isValidChar) : (Char.ofNat code).toNat = code := by
  rw [Char.ofNat, dif_pos valid]
  rfl

end BuildHeader.Text
