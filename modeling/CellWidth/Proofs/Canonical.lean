import CellWidth.Proofs.Merging

/-!
# Merged intervals as a normal form

Merging is a normal form of lists of intervals. What is merged already stays as it is, whether its
intervals are reversed or not. And where none is reversed, the code points decide: two lists have the
same outcome just where they hold the same code points, and the outcome is as short as a list that holds
them can be.

Both come from the gaps. The code point after an interval of the outcome is held by none of them
(`Interval.Separated.not_held_after`). So where two such lists hold the same code points, their
intervals begin and end alike, one after the other; and in any list with these code points, no interval
reaches over a gap, so that there is at least one for each interval of the outcome.

* `Interval.merge_merge` — merging twice is merging once
* `Interval.Separated.eq_of_samePoints` — separated intervals are determined by their code points
* `Interval.Separated.length_le` — no list with the same code points is shorter
-/

namespace CellWidth

namespace Interval

variable {g next i : Interval} {is js ks : List Interval} {c : Int}

/-! ## The order of the outcome -/

theorem le_join (g next : Interval) : g.le (g.join next) = true :=
  le_iff.mpr (Or.inr ⟨rfl, Int.le_max_left g.last next.last⟩)

/-- An interval that is no later than the ones to come does not pass them when it grows. -/
theorem join_le (hnext : g.le next = true) (hi : next.le i = true) : (g.join next).le i = true := by
  rw [le_iff] at *
  simp only [join]
  omega

theorem Ordered.join (h : Ordered (g :: next :: is)) : Ordered (g.join next :: is) := by
  obtain ⟨hg, hrest⟩ := List.pairwise_cons.mp h
  obtain ⟨hnext, htail⟩ := List.pairwise_cons.mp hrest
  refine List.pairwise_cons.mpr ⟨fun i hi => ?_, htail⟩
  exact join_le (hg next List.mem_cons_self) (hnext i hi)

/-- Nothing that comes out is before the interval in hand. -/
theorem le_of_mem_coalesceFrom : ∀ (is : List Interval) (g : Interval), Ordered (g :: is) →
    ∀ j ∈ coalesceFrom g is, g.le j = true
  | [], g, _, j, hj => by
    rw [coalesceFrom, List.mem_singleton] at hj
    exact hj ▸ le_refl g
  | next :: is, g, h, j, hj => by
    obtain ⟨hg, hrest⟩ := List.pairwise_cons.mp h
    rcases Int.lt_or_le (g.last + 1) next.first with hgap | htouch
    · rw [coalesceFrom_of_gap hgap, List.mem_cons] at hj
      rcases hj with rfl | hj
      · exact le_refl j
      · exact le_trans (hg next List.mem_cons_self) (le_of_mem_coalesceFrom is next hrest j hj)
    · rw [coalesceFrom_of_touch htouch] at hj
      exact le_trans (le_join g next) (le_of_mem_coalesceFrom is _ h.join j hj)

theorem ordered_coalesceFrom : ∀ (is : List Interval) (g : Interval), Ordered (g :: is) →
    Ordered (coalesceFrom g is)
  | [], g, _ => List.pairwise_singleton _ g
  | next :: is, g, h => by
    obtain ⟨hg, hrest⟩ := List.pairwise_cons.mp h
    rcases Int.lt_or_le (g.last + 1) next.first with hgap | htouch
    · rw [coalesceFrom_of_gap hgap]
      refine List.pairwise_cons.mpr ⟨fun j hj => ?_, ordered_coalesceFrom is next hrest⟩
      exact le_trans (hg next List.mem_cons_self) (le_of_mem_coalesceFrom is next hrest j hj)
    · rw [coalesceFrom_of_touch htouch]
      exact ordered_coalesceFrom is _ h.join

theorem ordered_merge (is : List Interval) : Ordered (merge is) := by
  obtain ⟨-, hmerge⟩ | ⟨g, rest, -, hle, hmerge⟩ := merge_cases is
  · rw [hmerge]
    exact List.Pairwise.nil
  · rw [hmerge]
    exact ordered_coalesceFrom rest g hle

/-! ## Merging again -/

theorem coalesceFrom_of_apart : ∀ (is : List Interval) (g : Interval),
    (g :: is).Pairwise (fun a b => a.last + 1 < b.first) → coalesceFrom g is = g :: is
  | [], _, _ => rfl
  | next :: is, g, h => by
    obtain ⟨hg, hrest⟩ := List.pairwise_cons.mp h
    rw [coalesceFrom_of_gap (hg next List.mem_cons_self), coalesceFrom_of_apart is next hrest]

/-- Intervals in order and apart are merged already. -/
theorem merge_of_ordered (hle : Ordered is)
    (hapart : is.Pairwise fun a b => a.last + 1 < b.first) : merge is = is := by
  rw [merge, List.mergeSort_of_pairwise hle]
  cases is with
  | nil => rfl
  | cons g rest => exact coalesceFrom_of_apart rest g hapart

/-- **Merging twice is merging once.** -/
theorem merge_merge (is : List Interval) : merge (merge is) = merge is :=
  merge_of_ordered (ordered_merge is) (pairwise_merge is)

/-- **What merging does to every list.** It keeps the code points, leaves a gap between any two
intervals, and changes nothing when done again. A reversed interval may stay; where there is none, none
comes out, and a list with an interval becomes a table that passes the check. -/
theorem merge_normalizes (is : List Interval) :
    (∀ c, (∃ j ∈ merge is, c ∈ j) ↔ ∃ i ∈ is, c ∈ i) ∧
    (merge is).Pairwise (fun a b => a.last + 1 < b.first) ∧
    merge (merge is) = merge is ∧
    ((∀ i ∈ is, i.first ≤ i.last) →
      (∀ j ∈ merge is, j.first ≤ j.last) ∧
      (is ≠ [] → Table.check (merge is).toArray = .ok (merge is).length)) := by
  refine ⟨exists_mem_merge_iff is, pairwise_merge is, merge_merge is, fun hproper => ?_⟩
  refine ⟨proper_merge hproper, fun hne => Table.check_eq_ok_iff.mpr ⟨rfl, ?_, ?_⟩⟩
  · exact List.length_pos_iff.mpr fun hnil => hne (merge_eq_nil_iff.mp hnil)
  · exact ascending_merge hproper

/-- Two intervals that touch, and one inside another, in no order. -/
theorem check_merge_touching :
    (∀ i ∈ [(⟨5, 9⟩ : Interval), ⟨1, 4⟩, ⟨12, 20⟩, ⟨14, 15⟩], i.first ≤ i.last) ∧
      Table.check (merge [⟨5, 9⟩, ⟨1, 4⟩, ⟨12, 20⟩, ⟨14, 15⟩]).toArray =
        .ok (merge [⟨5, 9⟩, ⟨1, 4⟩, ⟨12, 20⟩, ⟨14, 15⟩]).length := by
  have hproper : ∀ i ∈ [(⟨5, 9⟩ : Interval), ⟨1, 4⟩, ⟨12, 20⟩, ⟨14, 15⟩], i.first ≤ i.last := by
    decide
  exact ⟨hproper, ((merge_normalizes _).2.2.2 hproper).2 (List.cons_ne_nil _ _)⟩

/-- A reversed interval that nothing joins stays, and what begins where it begins comes after it. -/
example : merge [⟨5, 9⟩, ⟨5, 1⟩] = [⟨5, 1⟩, ⟨5, 9⟩] := by
  cbv

/-! ## The code points of a list -/

/-- Two lists hold the same code points. -/
def SamePoints (is js : List Interval) : Prop :=
  ∀ c, (∃ i ∈ is, c ∈ i) ↔ ∃ j ∈ js, c ∈ j

theorem SamePoints.symm (h : SamePoints is js) : SamePoints js is :=
  fun c => (h c).symm

theorem SamePoints.trans (h : SamePoints is js) (hk : SamePoints js ks) : SamePoints is ks :=
  fun c => (h c).trans (hk c)

theorem SamePoints.append {is' js' : List Interval} (h : SamePoints is is')
    (hj : SamePoints js js') : SamePoints (is ++ js) (is' ++ js') := by
  intro c
  simp only [List.mem_append, or_and_right, exists_or, h c, hj c]

theorem samePoints_merge (is : List Interval) : SamePoints (merge is) is :=
  exists_mem_merge_iff is

theorem samePoints_of_mem_iff (h : ∀ i, i ∈ is ↔ i ∈ js) : SamePoints is js := by
  intro c
  simp only [h]

/-- An interval can be split after any of its code points. -/
theorem samePoints_split {first mid last : Int} (hfirst : first ≤ mid) (hlast : mid < last)
    (is js : List Interval) :
    SamePoints (is ++ ⟨first, mid⟩ :: ⟨mid + 1, last⟩ :: js) (is ++ ⟨first, last⟩ :: js) := by
  intro c
  have hsplit : c ∈ (⟨first, last⟩ : Interval) ↔
      c ∈ (⟨first, mid⟩ : Interval) ∨ c ∈ (⟨mid + 1, last⟩ : Interval) := by
    simp only [mem_iff]
    omega
  simp only [List.mem_append, List.mem_cons, or_and_right, exists_or, exists_eq_left, hsplit,
    or_assoc]

/-! ## Separated intervals -/

/-- No interval is reversed, and a code point lies between any two. -/
structure Separated (is : List Interval) : Prop where
  proper : ∀ i ∈ is, i.first ≤ i.last
  apart : is.Pairwise fun a b => a.last + 1 < b.first

theorem separated_merge (h : ∀ i ∈ is, i.first ≤ i.last) : Separated (merge is) where
  proper := proper_merge h
  apart := pairwise_merge is

namespace Separated

theorem head (h : Separated (i :: is)) : i.first ≤ i.last :=
  h.proper i List.mem_cons_self

theorem tail (h : Separated (i :: is)) : Separated is where
  proper j hj := h.proper j (List.mem_cons_of_mem i hj)
  apart := (List.pairwise_cons.mp h.apart).2

/-- The later intervals leave out the code point after the first one. -/
theorem after_head (h : Separated (i :: is)) (hc : ∃ j ∈ is, c ∈ j) : i.last + 1 < c := by
  obtain ⟨j, hj, hcj⟩ := hc
  have hgap := (List.pairwise_cons.mp h.apart).1 j hj
  have hfirst := (mem_iff.mp hcj).1
  omega

theorem held_tail_iff (h : Separated (i :: is)) :
    (∃ j ∈ is, c ∈ j) ↔ i.last < c ∧ ∃ j ∈ i :: is, c ∈ j := by
  constructor
  · intro hheld
    have hafter := h.after_head hheld
    obtain ⟨j, hj, hc⟩ := hheld
    exact ⟨by omega, j, List.mem_cons_of_mem i hj, hc⟩
  · rintro ⟨hlt, j, hj, hc⟩
    rcases List.mem_cons.mp hj with rfl | hj
    · exact absurd (mem_iff.mp hc).2 (Int.not_le.mpr hlt)
    · exact ⟨j, hj, hc⟩

/-- **The code point after an interval is held by none.** -/
theorem not_held_after : ∀ {is : List Interval}, Separated is → ∀ i ∈ is,
    ¬∃ j ∈ is, i.last + 1 ∈ j
  | [], _, i, hi => absurd hi List.not_mem_nil
  | g :: is, h, i, hi => by
    rintro ⟨j, hj, hc⟩
    have hbounds := mem_iff.mp hc
    rcases List.mem_cons.mp hi with rfl | hlater
    · rcases List.mem_cons.mp hj with rfl | hj
      · omega
      · have hafter := h.after_head ⟨j, hj, hc⟩
        omega
    · rcases List.mem_cons.mp hj with rfl | hj
      · -- `i` comes later than `j`, so it ends beyond `j` and the gap behind it.
        have hproper := h.tail.proper i hlater
        have hafter := h.after_head ⟨i, hlater, mem_iff.mpr ⟨hproper, Int.le_refl _⟩⟩
        omega
      · exact h.tail.not_held_after i hlater ⟨j, hj, hc⟩

/-! ### They are determined by their code points -/

section Heads

variable {j : Interval} (h : Separated (i :: is)) (hj : Separated (j :: js))
  (hsame : SamePoints (i :: is) (j :: js))
include h hsame

/-- Where the code points are the same, the second list begins no earlier. -/
theorem head_first_le (hproper : j.first ≤ j.last) : i.first ≤ j.first := by
  obtain ⟨k, hk, hc⟩ := (hsame j.first).mpr
    ⟨j, List.mem_cons_self, mem_iff.mpr ⟨Int.le_refl _, hproper⟩⟩
  have hhead := h.head
  rcases List.mem_cons.mp hk with rfl | hk
  · exact (mem_iff.mp hc).1
  · have hafter := h.after_head ⟨k, hk, hc⟩
    omega

/-- Where both lists begin alike, the first interval of the second does not reach into the gap after that
of the first. -/
theorem head_last_le (hfirst : i.first = j.first) : j.last ≤ i.last := by
  have hhead := h.head
  refine Int.not_lt.mp fun hlt => h.not_held_after i List.mem_cons_self ?_
  exact (hsame (i.last + 1)).mpr ⟨j, List.mem_cons_self, mem_iff.mpr (by omega)⟩

end Heads

/-- **Separated intervals are determined by their code points.** -/
theorem eq_of_samePoints : ∀ {is js : List Interval}, Separated is → Separated js →
    SamePoints is js → is = js
  | [], [], _, _, _ => rfl
  | [], j :: js, _, hjs, hsame => by
    obtain ⟨i, hi, -⟩ := (hsame j.first).mpr
      ⟨j, List.mem_cons_self, mem_iff.mpr ⟨Int.le_refl _, hjs.head⟩⟩
    exact absurd hi List.not_mem_nil
  | i :: is, [], his, _, hsame => by
    obtain ⟨j, hj, -⟩ := (hsame i.first).mp
      ⟨i, List.mem_cons_self, mem_iff.mpr ⟨Int.le_refl _, his.head⟩⟩
    exact absurd hj List.not_mem_nil
  | i :: is, j :: js, his, hjs, hsame => by
    have hfirst : i.first = j.first :=
      Int.le_antisymm (his.head_first_le hsame hjs.head) (hjs.head_first_le hsame.symm his.head)
    have hlast : i.last = j.last :=
      Int.le_antisymm (hjs.head_last_le hsame.symm hfirst.symm) (his.head_last_le hsame hfirst)
    obtain rfl : i = j := by
      show (⟨i.first, i.last⟩ : Interval) = ⟨j.first, j.last⟩
      rw [hfirst, hlast]
    have htail : SamePoints is js := fun c => by
      rw [his.held_tail_iff, hjs.held_tail_iff, hsame c]
    rw [his.tail.eq_of_samePoints hjs.tail htail]

end Separated

/-! ### No list with the same code points is shorter -/

/-- If some of the intervals `ks` hold the beginnings of the intervals `is`, and none holds two of them,
then there are as many at least. -/
theorem length_le_of_firsts : ∀ (is ks : List Interval), (∀ i ∈ is, ∃ k ∈ ks, i.first ∈ k) →
    (∀ k ∈ ks, is.Pairwise fun a b => a.first ∈ k → b.first ∉ k) → is.length ≤ ks.length
  | [], _, _, _ => Nat.zero_le _
  | i :: is, ks, hheld, hone => by
    -- What holds the beginning of `i` is of no use for the others, so without it they are still held.
    have hrest : ∀ j ∈ is, ∃ k ∈ ks.filter fun k => i.first ∉ k, j.first ∈ k := by
      intro j hj
      obtain ⟨k, hk, hjk⟩ := hheld j (List.mem_cons_of_mem i hj)
      have hik : i.first ∉ k := fun hik => (List.pairwise_cons.mp (hone k hk)).1 j hj hik hjk
      exact ⟨k, List.mem_filter.mpr ⟨hk, decide_eq_true hik⟩, hjk⟩
    have hle := length_le_of_firsts is _ hrest fun k hk =>
      (List.pairwise_cons.mp (hone k (List.mem_filter.mp hk).1)).2
    have hlt : (ks.filter fun k => i.first ∉ k).length < ks.length := by
      obtain ⟨k, hk, hik⟩ := hheld i List.mem_cons_self
      exact List.length_filter_lt_length_iff_exists.mpr ⟨k, hk, by simpa using hik⟩
    rw [List.length_cons]
    omega

/-- **No list with the code points of separated intervals is shorter.** An interval that held the
beginnings of two of them would hold the gap between. -/
theorem Separated.length_le (h : Separated is) (hks : SamePoints ks is) : is.length ≤ ks.length := by
  refine length_le_of_firsts is ks (fun i hi => ?_) fun k hk => ?_
  · exact (hks i.first).mpr ⟨i, hi, mem_iff.mpr ⟨Int.le_refl _, h.proper i hi⟩⟩
  · refine h.apart.imp_of_mem fun {a b} ha _ hgap hak hbk => ?_
    have hproper := h.proper a ha
    rw [mem_iff] at hak hbk
    exact h.not_held_after a ha ((hks (a.last + 1)).mp ⟨k, hk, mem_iff.mpr (by omega)⟩)

/-! ## The normal form -/

/-- Where no interval is reversed, the code points decide what is merged to what. -/
theorem merge_eq_merge_iff (his : ∀ i ∈ is, i.first ≤ i.last) (hjs : ∀ j ∈ js, j.first ≤ j.last) :
    merge is = merge js ↔ SamePoints is js := by
  constructor
  · intro heq
    exact (samePoints_merge is).symm.trans (heq ▸ samePoints_merge js)
  · intro hsame
    refine (separated_merge his).eq_of_samePoints (separated_merge hjs) ?_
    exact ((samePoints_merge is).trans hsame).trans (samePoints_merge js).symm

theorem merge_append (his : ∀ i ∈ is, i.first ≤ i.last) (hjs : ∀ j ∈ js, j.first ≤ j.last) :
    merge (is ++ js) = merge (merge is ++ merge js) := by
  have hall : ∀ i ∈ is ++ js, i.first ≤ i.last := by
    intro i hi
    exact (List.mem_append.mp hi).elim (his i) (hjs i)
  have hmerged : ∀ i ∈ merge is ++ merge js, i.first ≤ i.last := by
    intro i hi
    exact (List.mem_append.mp hi).elim (proper_merge his i) (proper_merge hjs i)
  rw [merge_eq_merge_iff hall hmerged]
  exact ((samePoints_merge is).append (samePoints_merge js)).symm

/-- **Merging is a normal form of the intervals that are not reversed.** The code points alone decide the
outcome. So it does not matter in which order the intervals stand, how often each of them stands there
or how they are split, nor whether some of them have been merged before. And no list with the same code
points is shorter. -/
theorem merge_canonical (his : ∀ i ∈ is, i.first ≤ i.last) (hjs : ∀ j ∈ js, j.first ≤ j.last) :
    (merge is = merge js ↔ SamePoints is js) ∧
    (∀ ks, (∀ i, i ∈ ks ↔ i ∈ is) → merge ks = merge is) ∧
    (∀ xs ys first mid last, is = xs ++ ⟨first, last⟩ :: ys → first ≤ mid → mid < last →
      merge (xs ++ ⟨first, mid⟩ :: ⟨mid + 1, last⟩ :: ys) = merge is) ∧
    merge (is ++ js) = merge (merge is ++ merge js) ∧
    ∀ ks, SamePoints ks is → (merge is).length ≤ ks.length := by
  refine ⟨merge_eq_merge_iff his hjs, fun ks hks => ?_, ?_, merge_append his hjs, fun ks hks => ?_⟩
  · have hproper : ∀ k ∈ ks, k.first ≤ k.last := fun k hk => his k ((hks k).mp hk)
    exact (merge_eq_merge_iff hproper his).mpr (samePoints_of_mem_iff hks)
  · rintro xs ys first mid last rfl hfirst hlast
    refine (merge_eq_merge_iff (fun k hk => ?_) his).mpr (samePoints_split hfirst hlast xs ys)
    simp only [List.mem_append, List.mem_cons] at hk
    rcases hk with hk | rfl | rfl | hk
    · exact his k (List.mem_append_left _ hk)
    · exact hfirst
    · exact hlast
    · exact his k (List.mem_append_right _ (List.mem_cons_of_mem _ hk))
  · exact (separated_merge his).length_le (hks.trans (samePoints_merge is).symm)

/-- Pieces in no order, some of them more than once, and the one interval that they make up. -/
theorem merge_pieces :
    (∀ i ∈ [(⟨5, 9⟩ : Interval), ⟨1, 4⟩, ⟨5, 9⟩, ⟨7, 12⟩], i.first ≤ i.last) ∧
      (∀ j ∈ [(⟨1, 12⟩ : Interval)], j.first ≤ j.last) ∧
      merge [⟨5, 9⟩, ⟨1, 4⟩, ⟨5, 9⟩, ⟨7, 12⟩] = merge [⟨1, 12⟩] ∧
      (merge [⟨5, 9⟩, ⟨1, 4⟩, ⟨5, 9⟩, ⟨7, 12⟩]).length ≤ 1 := by
  have hpieces : ∀ i ∈ [(⟨5, 9⟩ : Interval), ⟨1, 4⟩, ⟨5, 9⟩, ⟨7, 12⟩], i.first ≤ i.last := by decide
  have hwhole : ∀ j ∈ [(⟨1, 12⟩ : Interval)], j.first ≤ j.last := by decide
  have hsame : SamePoints [⟨5, 9⟩, ⟨1, 4⟩, ⟨5, 9⟩, ⟨7, 12⟩] [⟨1, 12⟩] := by
    intro c
    simp only [List.mem_cons, List.not_mem_nil, or_false, exists_eq_or_imp, exists_eq_left, mem_iff]
    omega
  obtain ⟨heq, -, -, -, hshort⟩ := merge_canonical hpieces hwhole
  exact ⟨hpieces, hwhole, heq.mpr hsame, hshort _ hsame.symm⟩

end Interval

end CellWidth
