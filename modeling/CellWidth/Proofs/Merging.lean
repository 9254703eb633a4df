import CellWidth.Interval.Merge
import CellWidth.Proofs.Search

/-!
# What merging keeps

`Interval.merge` holds the code points that the intervals before it held, and between two of its
intervals there is always a code point that neither holds. Both are true of every list, whether its
intervals are reversed or not.

Everything comes from one walk, `Interval.coalesceFrom`, over intervals that begin in ascending order
(`Interval.Rising`). The interval in hand grows at its last end only, so it never begins after the ones
that are still to come.

* `Interval.merge_cases` — merging is that walk, over the intervals in order
* `Interval.merge_of_perm` — whichever order they are given in
* `Interval.exists_mem_merge_iff` — merging keeps the code points
* `Interval.pairwise_merge` — merged intervals are apart
* `Interval.ascending_merge` — where no interval is reversed, the outcome is fit for searching
-/

namespace CellWidth

namespace Interval

variable {g next : Interval} {is : List Interval} {c : Int}

/-- The intervals begin in ascending order. -/
def Rising (is : List Interval) : Prop :=
  is.Pairwise fun a b => a.first ≤ b.first

/-- The intervals are in ascending order, those with one beginning by where they end. -/
def Ordered (is : List Interval) : Prop :=
  is.Pairwise fun a b => a.le b = true

instance (is : List Interval) : Decidable (Ordered is) :=
  inferInstanceAs (Decidable (is.Pairwise fun a b => a.le b = true))

theorem ordered_mergeSort (is : List Interval) : Ordered (is.mergeSort le) :=
  @List.pairwise_mergeSort _ le (fun _ _ _ => le_trans) le_total is

/-- Intervals in order begin in order. -/
theorem Ordered.rising (h : Ordered is) : Rising is :=
  h.imp fun hle => by
    rw [le_iff] at hle
    omega

/-! ## Joining two intervals -/

/-- The interval in hand, grown so far that it holds the next one. -/
def join (g next : Interval) : Interval :=
  ⟨g.first, max g.last next.last⟩

/-- Where the next interval begins no later than right after the one in hand, nothing comes between
them. The interval in hand may be reversed: then both begin at the same place. -/
theorem mem_join_iff (hrise : g.first ≤ next.first) (htouch : next.first ≤ g.last + 1) :
    c ∈ join g next ↔ c ∈ g ∨ c ∈ next := by
  simp only [join, mem_iff]
  omega

theorem Rising.first_le (h : Rising (g :: is)) : ∀ i ∈ is, g.first ≤ i.first :=
  (List.pairwise_cons.mp h).1

theorem Rising.tail (h : Rising (g :: is)) : Rising is :=
  (List.pairwise_cons.mp h).2

/-- To grow the first interval does not change where it begins. -/
theorem Rising.join (h : Rising (g :: next :: is)) : Rising (g.join next :: is) :=
  List.pairwise_cons.mpr
    ⟨fun i hi => h.first_le i (List.mem_cons_of_mem _ hi), h.tail.tail⟩

/-- An interval that touches the one in hand is joined to it. -/
theorem coalesceFrom_of_touch (h : next.first ≤ g.last + 1) :
    coalesceFrom g (next :: is) = coalesceFrom (g.join next) is := by
  rw [coalesceFrom, if_pos h]
  rfl

/-- At a gap the one in hand is done with. -/
theorem coalesceFrom_of_gap (h : g.last + 1 < next.first) :
    coalesceFrom g (next :: is) = g :: coalesceFrom next is := by
  rw [coalesceFrom, if_neg (Int.not_le.mpr h)]

/-! ## The walk -/

/-- The walk keeps the code points. -/
theorem exists_mem_coalesceFrom_iff : ∀ (is : List Interval) (g : Interval), Rising (g :: is) →
    ((∃ i ∈ coalesceFrom g is, c ∈ i) ↔ c ∈ g ∨ ∃ i ∈ is, c ∈ i)
  | [], g, _ => by simp [coalesceFrom]
  | next :: is, g, h => by
    rcases Int.lt_or_le (g.last + 1) next.first with hgap | htouch
    · have hrest := exists_mem_coalesceFrom_iff is next h.tail
      rw [coalesceFrom_of_gap hgap]
      simp only [List.mem_cons, exists_eq_or_imp, hrest]
    · have hjoin := mem_join_iff (c := c) (h.first_le next List.mem_cons_self) htouch
      rw [coalesceFrom_of_touch htouch, exists_mem_coalesceFrom_iff is _ h.join, hjoin]
      simp only [List.mem_cons, exists_eq_or_imp, or_assoc]

/-- Nothing that comes out begins before the interval in hand. -/
theorem first_le_of_mem_coalesceFrom : ∀ (is : List Interval) (g : Interval), Rising (g :: is) →
    ∀ j ∈ coalesceFrom g is, g.first ≤ j.first
  | [], g, _, j, hj => by
    rw [coalesceFrom, List.mem_singleton] at hj
    exact Int.le_of_eq (congrArg first hj.symm)
  | next :: is, g, h, j, hj => by
    rcases Int.lt_or_le (g.last + 1) next.first with hgap | htouch
    · rw [coalesceFrom_of_gap hgap, List.mem_cons] at hj
      rcases hj with rfl | hj
      · exact Int.le_refl _
      · have h1 := h.first_le next List.mem_cons_self
        have h2 := first_le_of_mem_coalesceFrom is next h.tail j hj
        omega
    · rw [coalesceFrom_of_touch htouch] at hj
      exact first_le_of_mem_coalesceFrom is _ h.join j hj

/-- What comes out is apart: a code point lies between any two intervals. -/
theorem pairwise_coalesceFrom : ∀ (is : List Interval) (g : Interval), Rising (g :: is) →
    (coalesceFrom g is).Pairwise fun a b => a.last + 1 < b.first
  | [], g, _ => by
    rw [coalesceFrom]
    exact List.pairwise_singleton _ g
  | next :: is, g, h => by
    rcases Int.lt_or_le (g.last + 1) next.first with hgap | htouch
    · -- The interval in hand is done: whatever comes out later begins beyond the gap.
      rw [coalesceFrom_of_gap hgap, List.pairwise_cons]
      refine ⟨fun j hj => ?_, pairwise_coalesceFrom is next h.tail⟩
      have := first_le_of_mem_coalesceFrom is next h.tail j hj
      omega
    · rw [coalesceFrom_of_touch htouch]
      exact pairwise_coalesceFrom is _ h.join

/-- The walk reverses no interval. -/
theorem proper_coalesceFrom : ∀ (is : List Interval) (g : Interval), g.first ≤ g.last →
    (∀ i ∈ is, i.first ≤ i.last) → ∀ j ∈ coalesceFrom g is, j.first ≤ j.last
  | [], g, hg, _, j, hj => by
    rw [coalesceFrom, List.mem_singleton] at hj
    exact hj ▸ hg
  | next :: is, g, hg, his, j, hj => by
    obtain ⟨hnext, hrest⟩ := List.forall_mem_cons.mp his
    rcases Int.lt_or_le (g.last + 1) next.first with hgap | htouch
    · rw [coalesceFrom_of_gap hgap, List.mem_cons] at hj
      rcases hj with rfl | hj
      · exact hg
      · exact proper_coalesceFrom is next hnext hrest j hj
    · rw [coalesceFrom_of_touch htouch] at hj
      have hgrown : (g.join next).first ≤ (g.join next).last := by
        simp only [join]
        omega
      exact proper_coalesceFrom is _ hgrown hrest j hj

theorem coalesceFrom_ne_nil : ∀ (is : List Interval) (g : Interval), coalesceFrom g is ≠ []
  | [], g => by simp [coalesceFrom]
  | next :: is, g => by
    rw [coalesceFrom]
    split
    · exact coalesceFrom_ne_nil is _
    · exact List.cons_ne_nil _ _

/-! ## Sorting first -/

/-- Merging is the walk over the intervals in ascending order, if there are any. -/
theorem merge_cases (is : List Interval) : is = [] ∧ merge is = [] ∨
    ∃ g rest, is.Perm (g :: rest) ∧ Ordered (g :: rest) ∧ merge is = coalesceFrom g rest := by
  have hperm := List.mergeSort_perm is le
  have hle := ordered_mergeSort is
  rw [merge]
  cases hsorted : is.mergeSort le with
  | nil =>
    rw [hsorted] at hperm
    exact Or.inl ⟨hperm.nil_eq.symm, rfl⟩
  | cons g rest =>
    rw [hsorted] at hperm hle
    exact Or.inr ⟨g, rest, hperm.symm, hle, rfl⟩

theorem le_antisymm {a b : Interval} (hab : a.le b = true) (hba : b.le a = true) : a = b := by
  rw [le_iff] at hab hba
  cases a
  cases b
  rw [mk.injEq]
  dsimp only at hab hba
  omega

/-- **The order in which intervals are given does not matter.** There is one list of them in order, and
merging is the walk over this. -/
theorem merge_of_perm {js : List Interval} (hperm : is.Perm js) (hjs : Ordered js) :
    merge is = coalesce js := by
  have hsame : is.mergeSort le = js :=
    ((List.mergeSort_perm is le).trans hperm).eq_of_pairwise
      (fun a b _ _ hab hba => le_antisymm hab hba) (ordered_mergeSort is) hjs
  rw [merge, hsame]

/-- Intervals in another order are merged to the same. -/
theorem merge_eq_of_perm {js : List Interval} (h : is.Perm js) : merge is = merge js :=
  merge_of_perm (h.trans (List.mergeSort_perm js le).symm) (ordered_mergeSort js)

/-- **Merging keeps the code points.** -/
theorem exists_mem_merge_iff (is : List Interval) (c : Int) :
    (∃ i ∈ merge is, c ∈ i) ↔ ∃ i ∈ is, c ∈ i := by
  obtain ⟨rfl, hmerge⟩ | ⟨g, rest, hperm, hle, hmerge⟩ := merge_cases is
  · rw [hmerge]
  · rw [hmerge, exists_mem_coalesceFrom_iff rest g hle.rising]
    simp only [hperm.mem_iff, List.mem_cons, exists_eq_or_imp]

/-- **Merged intervals are apart.** -/
theorem pairwise_merge (is : List Interval) :
    (merge is).Pairwise fun a b => a.last + 1 < b.first := by
  obtain ⟨-, hmerge⟩ | ⟨g, rest, -, hle, hmerge⟩ := merge_cases is
  · rw [hmerge]
    exact List.Pairwise.nil
  · rw [hmerge]
    exact pairwise_coalesceFrom rest g hle.rising

/-- Where none was reversed, none is made so. -/
theorem proper_merge (h : ∀ i ∈ is, i.first ≤ i.last) : ∀ j ∈ merge is, j.first ≤ j.last := by
  obtain ⟨-, hmerge⟩ | ⟨g, rest, hperm, -, hmerge⟩ := merge_cases is
  · rw [hmerge]
    exact fun j hj => absurd hj List.not_mem_nil
  · obtain ⟨hg, hrest⟩ := List.forall_mem_cons.mp fun i hi => h i (hperm.mem_iff.mpr hi)
    rw [hmerge]
    exact proper_coalesceFrom rest g hg hrest

theorem merge_eq_nil_iff : merge is = [] ↔ is = [] := by
  obtain ⟨rfl, hmerge⟩ | ⟨g, rest, hperm, -, hmerge⟩ := merge_cases is
  · exact iff_of_true hmerge rfl
  · rw [hmerge]
    refine iff_of_false (coalesceFrom_ne_nil rest g) ?_
    rintro rfl
    exact List.cons_ne_nil g rest hperm.nil_eq.symm

/-- Merged intervals are apart in any case, so only a reversed one can disturb their order. -/
theorem ascending_merge_iff :
    Table.Ascending (merge is).toArray ↔ ∀ j ∈ merge is, j.first ≤ j.last :=
  ⟨fun h => h.proper, fun h => ⟨h, (pairwise_merge is).imp fun hgap => by omega⟩⟩

/-- **Merged intervals are in the order that the search relies on, if none was reversed.** -/
theorem ascending_merge (h : ∀ i ∈ is, i.first ≤ i.last) : Table.Ascending (merge is).toArray :=
  ascending_merge_iff.mpr (proper_merge h)

end Interval

end CellWidth
