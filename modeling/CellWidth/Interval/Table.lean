import CellWidth.Interval

/-!
# Tables of intervals

A table is an array of intervals. `Table.covers` asks every interval in turn and is the meaning of
membership; `Table.search` halves a window of indices, which on a table in ascending order gives the
same answer with far fewer questions.

The search keeps the window `[lo, hi)` inside the table, so every index that it probes is in range on
every table, ordered or not. An empty table has no ends to compare with: `Table.search?` has no
answer there.
-/

namespace CellWidth

/-- A table of intervals, in the order in which it is written. -/
abbrev Table := Array Interval

namespace Table

/-- Some interval of the table holds `c`. -/
def covers (t : Table) (c : Int) : Bool :=
  t.any fun i => decide (c ∈ i)

theorem covers_iff {t : Table} {c : Int} : t.covers c = true ↔ ∃ i ∈ t, c ∈ i := by
  rw [covers, Array.any_eq_true']
  simp only [decide_eq_true_eq]

/-! ## Searching by halves -/

/-- Searches the indices from `lo` up to, and without, `hi`. The probe is the middle index, the lower
one of two. -/
def searchWithin (t : Table) (c : Int) (lo hi : Nat) (hhi : hi ≤ t.size) : Bool :=
  if h : lo < hi then
    let mid := (lo + hi - 1) / 2
    have hmid : mid < t.size := by omega
    if t[mid].last < c then searchWithin t c (mid + 1) hi hhi
    else if c < t[mid].first then searchWithin t c lo mid (by omega)
    else true
  else false
termination_by hi - lo

/-- Searches the whole table, after two quick refusals: below its first end and above its last. -/
def search? (t : Table) (c : Int) : Option Bool :=
  if h : 0 < t.size then
    if c < t[0].first ∨ t[t.size - 1].last < c then some false
    else some (t.searchWithin c 0 t.size (Nat.le_refl _))
  else none

/-- Searches the table; nothing is found in an empty one. -/
def search (t : Table) (c : Int) : Bool :=
  (t.search? c).getD false

theorem search?_eq_none_iff {t : Table} {c : Int} : t.search? c = none ↔ t.size = 0 := by
  by_cases h : 0 < t.size
  · simp only [search?, h, dif_pos]
    split <;> simp only [reduceCtorEq, false_iff] <;> omega
  · simp only [search?, h, dif_neg, not_false_eq_true, true_iff]
    omega

theorem search?_eq_some {t : Table} {c : Int} (h : 0 < t.size) :
    t.search? c = some (t.search c) := by
  cases hs : t.search? c with
  | none => rw [search?_eq_none_iff] at hs; omega
  | some b => simp [search, hs]

end Table

end CellWidth
