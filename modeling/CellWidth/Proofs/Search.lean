import CellWidth.Interval.Flaw

/-!
# Searching a checked table

`Table.search?` halves a window of indices. Its answer is that of `Table.covers`, which asks every
interval, on each table that `Table.check` counts.

The check compares neighbours only. It follows that every interval ends before *each* later one begins
(`Table.Ascending`), because no interval is reversed: the order passes through the intervals between.
That order is what lets the search give up one side of the window with a single question.

* `Table.check_eq_ok_iff` — the tables that are counted are those in ascending order
* `Table.exists_mem_of_searchWithin` — what is found is in the window, on every table
* `Table.searchWithin_of_mem` — what is in the window is found, in ascending order
-/

namespace CellWidth

namespace Table

theorem covers_eq_any_toList (t : Table) (c : Int) :
    t.covers c = t.toList.any fun i => decide (c ∈ i) := by
  rw [covers, Array.any_toList]

/-! ## The order of a table -/

/-- The order that the search relies on: no interval is reversed, and each one ends before every later
one begins. -/
structure Ascending (t : Table) : Prop where
  proper : ∀ i ∈ t.toList, i.first ≤ i.last
  apart : t.toList.Pairwise fun a b => a.last < b.first

namespace Ascending

variable {t : Table}

theorem first_le_last (ht : t.Ascending) {i : Nat} (hi : i < t.size) :
    t[i].first ≤ t[i].last :=
  ht.proper _ (Array.getElem_mem_toList hi)

theorem last_lt_first (ht : t.Ascending) {i j : Nat} (hij : i < j) (hj : j < t.size) :
    t[i].last < t[j].first := by
  have h := List.pairwise_iff_getElem.mp ht.apart i j (by simp; omega) (by simpa using hj) hij
  simpa using h

/-- The first ends do not descend. -/
theorem first_le_first (ht : t.Ascending) {i j : Nat} (hij : i ≤ j) (hj : j < t.size) :
    t[i].first ≤ t[j].first := by
  rcases Nat.lt_or_eq_of_le hij with hlt | rfl
  · have h1 := ht.first_le_last (show i < t.size by omega)
    have h2 := ht.last_lt_first hlt hj
    omega
  · exact Int.le_refl _

/-- The last ends do not descend. -/
theorem last_le_last (ht : t.Ascending) {i j : Nat} (hij : i ≤ j) (hj : j < t.size) :
    t[i].last ≤ t[j].last := by
  rcases Nat.lt_or_eq_of_le hij with hlt | rfl
  · have h1 := ht.last_lt_first hlt hj
    have h2 := ht.first_le_last hj
    omega
  · exact Int.le_refl _

end Ascending

/-! ## What the check accepts -/

section Step

variable {k : Nat} {before : Option Int} {i : Interval} {rest : List Interval}

theorem flawFrom_of_reversed (h : i.last < i.first) :
    flawFrom k before (i :: rest) = some (.reversed k i) := by
  cases before with
  | none => rw [flawFrom, if_pos h]
  | some last => rw [flawFrom, if_pos h]

theorem flawFrom_of_overlap {last : Int} (hi : i.first ≤ i.last) (h : i.first ≤ last) :
    flawFrom k (some last) (i :: rest) = some (.outOfOrder k i.first last) := by
  rw [flawFrom, if_neg (Int.not_lt.mpr hi)]
  exact if_pos h

theorem flawFrom_of_proper (hi : i.first ≤ i.last) (h : ∀ last ∈ before, last < i.first) :
    flawFrom k before (i :: rest) = flawFrom (k + 1) (some i.last) rest := by
  cases before with
  | none => rw [flawFrom, if_neg (Int.not_lt.mpr hi)]
  | some last =>
    have hlast : last < i.first := h last rfl
    rw [flawFrom, if_neg (Int.not_lt.mpr hi)]
    exact if_neg (Int.not_le.mpr hlast)

/-- One step of the check: the interval at hand is not reversed, and it begins after the one before. -/
theorem flawFrom_cons_eq_none_iff :
    flawFrom k before (i :: rest) = none ↔
      i.first ≤ i.last ∧ (∀ last ∈ before, last < i.first) ∧
        flawFrom (k + 1) (some i.last) rest = none := by
  by_cases hi : i.first ≤ i.last
  · by_cases hbefore : ∀ last ∈ before, last < i.first
    · rw [flawFrom_of_proper hi hbefore]
      exact ⟨fun h => ⟨hi, hbefore, h⟩, fun h => h.2.2⟩
    · obtain ⟨last, rfl, hle⟩ : ∃ last, before = some last ∧ i.first ≤ last := by
        simpa using hbefore
      rw [flawFrom_of_overlap hi hle]
      exact ⟨fun h => absurd h (by simp), fun h => absurd h.2.1 hbefore⟩
  · rw [flawFrom_of_reversed (Int.not_le.mp hi)]
    exact ⟨fun h => absurd h (by simp), fun h => absurd h.1 hi⟩

end Step

/-- The whole check, after an interval that ends at `before`. What the neighbours say of each other is
said here of all pairs. -/
theorem flawFrom_eq_none_iff : ∀ (is : List Interval) (k : Nat) (before : Option Int),
    flawFrom k before is = none ↔
      (∀ i ∈ is, i.first ≤ i.last) ∧ is.Pairwise (fun a b => a.last < b.first) ∧
        ∀ last ∈ before, ∀ i ∈ is, last < i.first
  | [], k, before => by simp [flawFrom]
  | i :: rest, k, before => by
    rw [flawFrom_cons_eq_none_iff, flawFrom_eq_none_iff rest (k + 1) (some i.last)]
    simp only [List.forall_mem_cons, List.pairwise_cons, Option.mem_some_iff, forall_eq']
    constructor
    · rintro ⟨hi, hbefore, hproper, hapart, hafter⟩
      refine ⟨⟨hi, hproper⟩, ⟨hafter, hapart⟩, fun last hlast => ⟨hbefore last hlast, ?_⟩⟩
      -- The later intervals begin after `i` ends, and `i` is not reversed.
      intro j hj
      have h1 := hbefore last hlast
      have h2 := hafter j hj
      omega
    · rintro ⟨⟨hi, hproper⟩, ⟨hafter, hapart⟩, hbefore⟩
      exact ⟨hi, fun last hlast => (hbefore last hlast).1, hproper, hapart, hafter⟩

theorem flaw?_eq_none_iff {t : Table} : t.flaw? = none ↔ 0 < t.size ∧ t.Ascending := by
  unfold flaw?
  by_cases h : t.size = 0
  · simp [h]
  · rw [if_neg h, flawFrom_eq_none_iff]
    constructor
    · rintro ⟨hproper, hapart, -⟩
      exact ⟨by omega, hproper, hapart⟩
    · rintro ⟨-, hproper, hapart⟩
      exact ⟨hproper, hapart, by simp⟩

/-- **The tables that are counted are those that have an interval and are in ascending order.** -/
theorem check_eq_ok_iff {t : Table} {n : Nat} :
    t.check = .ok n ↔ n = t.size ∧ 0 < t.size ∧ t.Ascending := by
  rw [← flaw?_eq_none_iff]
  unfold check
  cases t.flaw? with
  | none => simp [eq_comm]
  | some f => simp

/-- A table that is not counted is reported for its first flaw. -/
theorem check_eq_error_iff {t : Table} {f : Flaw} : t.check = .error f ↔ t.flaw? = some f := by
  unfold check
  cases t.flaw? with
  | none => simp
  | some g => simp

/-! ## What the search finds -/

variable {t : Table} {c : Int}

/-- The search does not invent. This needs no order. -/
theorem exists_mem_of_searchWithin {lo hi : Nat} {hhi : hi ≤ t.size}
    (h : t.searchWithin c lo hi hhi = true) :
    ∃ k, ∃ hk : k < t.size, lo ≤ k ∧ k < hi ∧ c ∈ t[k] := by
  fun_induction searchWithin t c lo hi hhi with
  | case1 lo hi hhi hlt mid hmid habove ih =>
    obtain ⟨k, hk, h1, h2, hc⟩ := ih h
    exact ⟨k, hk, by omega, h2, hc⟩
  | case2 lo hi hhi hlt mid hmid habove hbelow ih =>
    obtain ⟨k, hk, h1, h2, hc⟩ := ih h
    exact ⟨k, hk, h1, by omega, hc⟩
  | case3 lo hi hhi hlt mid hmid habove hbelow =>
    exact ⟨mid, hmid, by omega, by omega, by omega, by omega⟩
  | case4 => simp at h

/-- The search does not miss. The invariant of the loop is that the interval sought stays in the
window, and the order of the table keeps it there. -/
theorem searchWithin_of_mem (ht : t.Ascending) {lo hi k : Nat} {hhi : hi ≤ t.size}
    (hlo : lo ≤ k) (hk : k < hi) (hc : c ∈ t[k]) : t.searchWithin c lo hi hhi = true := by
  have hfirst := (Interval.mem_iff.mp hc).1
  have hlast := (Interval.mem_iff.mp hc).2
  fun_induction searchWithin t c lo hi hhi with
  | case1 lo hi hhi hlt mid hmid habove ih =>
    -- The interval at `mid` ends below `c`, and those before it end even lower.
    have hright : mid < k := by
      refine Nat.lt_of_not_le fun hle => ?_
      have := ht.last_le_last hle hmid
      omega
    exact ih hright hk hc hfirst hlast
  | case2 lo hi hhi hlt mid hmid habove hbelow ih =>
    have hleft : k < mid := by
      refine Nat.lt_of_not_le fun hle => ?_
      have := ht.first_le_first hle (show k < t.size by omega)
      omega
    exact ih hlo hleft hc hfirst hlast
  | case3 => rfl
  | case4 => omega

/-- In ascending order the intervals up to the one that holds a code point begin no later than it, and
those from there on end no earlier. -/
theorem Ascending.bounds_of_mem (ht : t.Ascending) {i k j : Nat} (hik : i ≤ k) (hkj : k ≤ j)
    (hk : k < t.size) (hj : j < t.size) (hc : c ∈ t[k]) : t[i].first ≤ c ∧ c ≤ t[j].last := by
  obtain ⟨hfirst, hlast⟩ := Interval.mem_iff.mp hc
  have h1 := ht.first_le_first hik hk
  have h2 := ht.last_le_last hkj hj
  omega

theorem searchWithin_eq_covers (ht : t.Ascending) (c : Int) :
    t.searchWithin c 0 t.size (Nat.le_refl _) = t.covers c := by
  rw [Bool.eq_iff_iff, covers_iff]
  constructor
  · intro h
    obtain ⟨k, hk, -, -, hc⟩ := exists_mem_of_searchWithin h
    exact ⟨t[k], Array.getElem_mem hk, hc⟩
  · rintro ⟨i, hi, hc⟩
    obtain ⟨k, hk, rfl⟩ := Array.mem_iff_getElem.mp hi
    exact searchWithin_of_mem ht (Nat.zero_le k) hk hc

/-- In ascending order the search of a table with an interval gives the answer of the scan. -/
theorem Ascending.search? (ht : t.Ascending) (h : 0 < t.size) (c : Int) :
    t.search? c = some (t.covers c) := by
  rw [Table.search?, dif_pos h]
  by_cases hout : c < t[0].first ∨ t[t.size - 1].last < c
  · -- The quick refusals hide nothing: the code point is outside the whole table.
    rw [if_pos hout]
    cases hcov : t.covers c with
    | false => rfl
    | true =>
      obtain ⟨i, hi, hc⟩ := covers_iff.mp hcov
      obtain ⟨k, hk, rfl⟩ := Array.mem_iff_getElem.mp hi
      have := ht.bounds_of_mem (Nat.zero_le k) (show k ≤ t.size - 1 by omega) hk (by omega) hc
      omega
  · rw [if_neg hout, searchWithin_eq_covers ht]

/-- **The search of a checked table answers, and with the answer of the scan.** -/
theorem search?_eq_covers_of_check {n : Nat} (h : t.check = .ok n) (c : Int) :
    t.search? c = some (t.covers c) := by
  obtain ⟨-, hpos, hasc⟩ := check_eq_ok_iff.mp h
  exact hasc.search? hpos c

/-- Touching intervals, a gap and an interval of one code point; the one sought is in the gap. -/
theorem search?_in_gap :
    Table.check #[⟨-3, 4⟩, ⟨5, 9⟩, ⟨12, 12⟩] = .ok 3 ∧
      Table.search? #[⟨-3, 4⟩, ⟨5, 9⟩, ⟨12, 12⟩] 10 = some false := by
  have hcheck : Table.check #[⟨-3, 4⟩, ⟨5, 9⟩, ⟨12, 12⟩] = .ok 3 := by rfl
  refine ⟨hcheck, ?_⟩
  rw [search?_eq_covers_of_check hcheck 10, covers_eq_any_toList]
  decide

/-- In ascending order the search gives the answer of the scan, and nothing is found in an empty
table. -/
theorem Ascending.search_eq_covers (ht : t.Ascending) (c : Int) : t.search c = t.covers c := by
  by_cases h : 0 < t.size
  · rw [search, ht.search? h]
    rfl
  · have hempty : t = #[] := Array.eq_empty_of_size_eq_zero (by omega)
    subst hempty
    simp [search, Table.search?, covers]

end Table

end CellWidth
