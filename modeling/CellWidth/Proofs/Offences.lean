import CellWidth.Proofs.Search

/-!
# The first flaw of a table

The check walks over a table and compares each interval with the one before it. At an index there are
two offences (`Table.Offends`): the interval is reversed, or it does not begin after the one before it
ends. The walk goes on as long as there is none, and what it carries along is where the interval before
the index ends; so it stops at the first offence (`Table.first_offence_of_flawFrom`), and of two offences
at one index it names the reversal.

What the walk accepts is more than it looks at: in a table without offences *every* earlier interval ends
before every later one begins (`Table.ascending_iff`, `Table.check_eq_ok_iff`).

* `Table.check_accepts_searchable` — the tables accepted, and what is said of the others
-/

namespace CellWidth

namespace Table

variable {t : Table} {k : Nat} {f : Flaw}

/-! ## Offences -/

/-- The interval at an index is reversed, or it does not begin after the one before it ends. -/
def Offends (t : Table) (k : Nat) : Prop :=
  ∃ _ : k < t.size, t[k].last < t[k].first ∨ 0 < k ∧ t[k].first ≤ t[k - 1].last

/-- Where the interval before an index ends, if there is one. -/
def lastBefore (t : Table) : Nat → Option Int
  | 0 => none
  | k + 1 => t[k]?.map Interval.last

/-- The flaw that an offence at an index is reported as. -/
def flawAt (t : Table) (k : Nat) (_ : k < t.size) : Flaw :=
  if t[k].last < t[k].first then .reversed k t[k]
  else .outOfOrder k t[k].first t[k - 1].last

theorem lastBefore_succ (h : k < t.size) : t.lastBefore (k + 1) = some t[k].last := by
  rw [lastBefore, Array.getElem?_eq_getElem h, Option.map_some]

theorem lastBefore_of_pos (hk : 0 < k) (h : k < t.size) : t.lastBefore k = some t[k - 1].last := by
  obtain ⟨k, rfl⟩ := Nat.exists_eq_add_one_of_ne_zero (Nat.ne_of_gt hk)
  exact lastBefore_succ (show k < t.size by omega)

/-- Without an offence the interval begins after the one before it ends. -/
theorem lastBefore_lt_of_not_offends (h : k < t.size) (hk : ¬t.Offends k) :
    ∀ last ∈ t.lastBefore k, last < t[k].first := by
  intro last hlast
  rcases Nat.eq_zero_or_pos k with rfl | hpos
  · cases hlast
  · rw [lastBefore_of_pos hpos h, Option.mem_some_iff] at hlast
    exact Int.not_le.mp fun hle => hk ⟨h, .inr ⟨hpos, hlast ▸ hle⟩⟩

/-! ## The walk -/

/-- One step of the walk takes one interval. -/
theorem drop_toList (h : k < t.size) : t.toList.drop k = t[k] :: t.toList.drop (k + 1) := by
  rw [List.drop_eq_getElem_cons (by simpa using h), Array.getElem_toList]

/-- Without an offence the walk goes on. -/
theorem flawFrom_of_not_offends (h : k < t.size) (hk : ¬t.Offends k) :
    flawFrom k (t.lastBefore k) (t.toList.drop k) =
      flawFrom (k + 1) (t.lastBefore (k + 1)) (t.toList.drop (k + 1)) := by
  have hproper : t[k].first ≤ t[k].last := Int.not_lt.mp fun hlt => hk ⟨h, .inl hlt⟩
  rw [drop_toList h, flawFrom_of_proper hproper (lastBefore_lt_of_not_offends h hk),
    lastBefore_succ h]

/-- At an offence the walk stops. -/
theorem flawFrom_of_offends (h : k < t.size) (hk : t.Offends k) :
    flawFrom k (t.lastBefore k) (t.toList.drop k) = some (t.flawAt k h) := by
  rw [drop_toList h, flawAt]
  by_cases hreversed : t[k].last < t[k].first
  · rw [flawFrom_of_reversed hreversed, if_pos hreversed]
  · obtain ⟨hpos, hle⟩ := hk.2.resolve_left hreversed
    rw [lastBefore_of_pos hpos h, flawFrom_of_overlap (Int.not_lt.mp hreversed) hle,
      if_neg hreversed]

/-- **What the walk reports is the first offence on its way.** -/
theorem first_offence_of_flawFrom (k : Nat)
    (hf : flawFrom k (t.lastBefore k) (t.toList.drop k) = some f) :
    ∃ j, ∃ h : j < t.size, t.Offends j ∧ (∀ i, k ≤ i → i < j → ¬t.Offends i) ∧ f = t.flawAt j h := by
  rcases Nat.lt_or_ge k t.size with h | hend
  · by_cases hk : t.Offends k
    · rw [flawFrom_of_offends h hk] at hf
      exact ⟨k, h, hk, fun i hki hik => absurd hki (Nat.not_le.mpr hik), (Option.some.inj hf).symm⟩
    · rw [flawFrom_of_not_offends h hk] at hf
      obtain ⟨j, hj, hoffends, hfirst, hflaw⟩ := first_offence_of_flawFrom (k + 1) hf
      refine ⟨j, hj, hoffends, fun i hki hij => ?_, hflaw⟩
      rcases Nat.lt_or_eq_of_le hki with hlt | rfl
      · exact hfirst i hlt hij
      · exact hk
  · rw [List.drop_eq_nil_of_le (by simpa using hend), flawFrom] at hf
    cases hf
termination_by t.size - k

/-! ## The check -/

/-- A table is fit for searching: it has an interval, none is reversed, and each one ends before every
later one begins. -/
def IsSearchable (t : Table) : Prop :=
  0 < t.size ∧ (∀ i, ∀ _ : i < t.size, t[i].first ≤ t[i].last) ∧
    ∀ i j : Nat, ∀ _ : i < t.size, ∀ _ : j < t.size, i < j → t[i].last < t[j].first

/-- In ascending order, every interval ends before every later one begins, and not only before the next.
-/
theorem ascending_iff : t.Ascending ↔
    (∀ i, ∀ _ : i < t.size, t[i].first ≤ t[i].last) ∧
      ∀ i j : Nat, ∀ _ : i < t.size, ∀ _ : j < t.size, i < j → t[i].last < t[j].first := by
  constructor
  · intro ht
    exact ⟨fun i hi => ht.first_le_last hi, fun i j _ hj hij => ht.last_lt_first hij hj⟩
  · rintro ⟨hproper, hapart⟩
    refine ⟨fun i hi => ?_, List.pairwise_iff_getElem.mpr fun i j hi hj hij => ?_⟩
    · obtain ⟨k, hk, rfl⟩ := Array.mem_iff_getElem.mp (Array.mem_toList_iff.mp hi)
      exact hproper k hk
    · rw [Array.getElem_toList, Array.getElem_toList]
      exact hapart i j (by simpa using hi) (by simpa using hj) hij

theorem check_eq_ok_iff_isSearchable {n : Nat} : t.check = .ok n ↔ n = t.size ∧ t.IsSearchable := by
  rw [check_eq_ok_iff, ascending_iff, IsSearchable]

theorem check_empty (h : t.size = 0) : t.check = .error .empty := by
  rw [check_eq_error_iff, flaw?, if_pos h]

/-- A table with intervals that is not counted is reported for its first offence. -/
theorem first_offence_of_check (hpos : 0 < t.size) (h : t.check = .error f) :
    ∃ k, ∃ hk : k < t.size, t.Offends k ∧ (∀ i, i < k → ¬t.Offends i) ∧ f = t.flawAt k hk := by
  have hflaw : flawFrom 0 (t.lastBefore 0) (t.toList.drop 0) = some f := by
    rw [check_eq_error_iff, flaw?, if_neg (Nat.ne_of_gt hpos)] at h
    rw [lastBefore, List.drop_zero, h]
  obtain ⟨k, hk, hoffends, hfirst, rfl⟩ := first_offence_of_flawFrom 0 hflaw
  exact ⟨k, hk, hoffends, fun i hi => hfirst i (Nat.zero_le i) hi, rfl⟩

/-- **The check accepts the tables that are fit for searching, and no others.** It compares neighbours,
and what it counts is in order as a whole. A table that it refuses has no interval, or else the message
names the first index with an offence: the interval there where it is reversed, whatever comes before
it; and otherwise where it begins, and where the one before it ends. -/
theorem check_accepts_searchable (t : Table) (name : String) :
    (∀ n, t.check = .ok n ↔ n = t.size ∧ t.IsSearchable) ∧
    (¬t.IsSearchable → ∃ f, t.check = .error f ∧
      (t.size = 0 → f.message name = name ++ ": interval table is empty") ∧
      (0 < t.size → ∃ k, ∃ _ : k < t.size, t.Offends k ∧ (∀ i, i < k → ¬t.Offends i) ∧
        (t[k].last < t[k].first → f.message name = name ++ "[" ++ toString k ++ "]: first "
          ++ Flaw.endText t[k].first ++ " > last " ++ Flaw.endText t[k].last) ∧
        (t[k].first ≤ t[k].last → f.message name = name ++ "[" ++ toString k ++ "]: "
          ++ Flaw.endText t[k].first ++ " does not follow " ++ Flaw.endText t[k - 1].last))) := by
  refine ⟨fun n => check_eq_ok_iff_isSearchable, fun hnot => ?_⟩
  cases hcheck : t.check with
  | ok n => exact absurd (check_eq_ok_iff_isSearchable.mp hcheck).2 hnot
  | error f =>
    refine ⟨f, rfl, fun hempty => ?_, fun hpos => ?_⟩
    · rw [check_empty hempty] at hcheck
      rw [← Except.error.inj hcheck]
      rfl
    · obtain ⟨k, hk, hoffends, hfirst, rfl⟩ := first_offence_of_check hpos hcheck
      refine ⟨k, hk, hoffends, hfirst, fun hreversed => ?_, fun hproper => ?_⟩
      · rw [flawAt, if_pos hreversed]
        rfl
      · rw [flawAt, if_neg (Int.not_lt.mpr hproper)]
        rfl

/-- An interval that is reversed and out of order at once counts as reversed, and the later one that is
out of order is not reached. -/
example :
    Table.check #[⟨1, 4⟩, ⟨3, 2⟩, ⟨0, 9⟩] = .error (.reversed 1 ⟨3, 2⟩) := by
  rfl

end Table

end CellWidth
