/-!
# Intervals of code points

A closed interval is a pair of integers. Code points are integers of any size and sign here, and an
interval may be reversed: which tables are fit for searching is a question for
`CellWidth.Interval.Flaw`, not for the type. A reversed interval holds no code point.
-/

namespace CellWidth

/-- The closed interval from `first` to `last`. -/
structure Interval where
  first : Int
  last : Int
deriving DecidableEq

namespace Interval

instance : Membership Int Interval :=
  ⟨fun i c => i.first ≤ c ∧ c ≤ i.last⟩

theorem mem_iff {c : Int} {i : Interval} : c ∈ i ↔ i.first ≤ c ∧ c ≤ i.last :=
  Iff.rfl

instance (c : Int) (i : Interval) : Decidable (c ∈ i) :=
  inferInstanceAs (Decidable (i.first ≤ c ∧ c ≤ i.last))

/-- The interval that holds `c` alone. -/
def single (c : Int) : Interval := ⟨c, c⟩

/-- Intervals are ordered by their first end, and by their last end where the first ends agree. -/
def le (a b : Interval) : Bool :=
  a.first < b.first || (a.first == b.first && a.last ≤ b.last)

theorem le_iff {a b : Interval} :
    a.le b = true ↔ a.first < b.first ∨ (a.first = b.first ∧ a.last ≤ b.last) := by
  simp [le]

theorem le_refl (a : Interval) : a.le a = true :=
  le_iff.mpr (Or.inr ⟨rfl, Int.le_refl a.last⟩)

theorem le_trans {a b c : Interval} (hab : a.le b = true) (hbc : b.le c = true) :
    a.le c = true := by
  rw [le_iff] at *
  omega

theorem le_total (a b : Interval) : (a.le b || b.le a) = true := by
  rw [Bool.or_eq_true, le_iff, le_iff]
  omega

end Interval

end CellWidth
