import CellWidth.Proofs.Search
import Mathlib.Algebra.Group.Nat.Defs

/-!
# Probes of a search

`Table.searchWithin` cannot leave the table, since its window is a pair of natural numbers with a proof
that it ends there. Here is the same loop without any such help. Its window has two integers for ends,
both included; an index is looked up and may be missing; and nothing is asked of the table, whose
intervals may be reversed, overlap and stand in any order. `Table.bisection` keeps a list of all indices
that it looks up.

What keeps the search inside is the bounds alone. One step leaves a window within the table, so the probe
between its ends is there; and it halves the window, so there are few probes. The ends themselves do leave
the table: the loop is over with the first at the size, or with the last at -1.

* `Table.turn_of_isWithin` — what one step does to a window within the table
* `Table.course_probes`, `Table.length_probes_course` — where a whole run probes, and how often
* `Table.bisection_answer` — it gives the answer of `Table.search?`, on every table
* `Table.search?_of_any_order` — so the search of a table that is not empty ends, within it, and does not
  invent
-/

namespace CellWidth

/-! ## Windows -/

/-- The indices from `lo` to `hi`, both included; there are none where `hi` is less than `lo`. -/
structure Window where
  lo : Int
  hi : Int
deriving DecidableEq

namespace Window

/-- The index in the middle, the lower one of two. -/
def mid (w : Window) : Int := (w.lo + w.hi) / 2

/-- The number of indices. -/
def width (w : Window) : Nat := (w.hi + 1 - w.lo).toNat

/-- All indices of the window are in the table. Where there are none, the first end may be the size of the
table, and the last one -1. -/
structure IsWithin (w : Window) (t : Table) : Prop where
  nonneg : 0 ≤ w.lo
  lt_size : w.hi < t.size
  le_succ : w.lo ≤ w.hi + 1

end Window

namespace Table

/-- The interval at an index, if it is one of the table. Indices do not count from the end. -/
def at? (t : Table) (k : Int) : Option Interval :=
  if 0 ≤ k then t[k.toNat]? else none

/-! ## One step -/

/-- How one step of the search ends. -/
inductive Turn where
  /-- The window is empty. -/
  | exhausted
  /-- The interval in the middle holds the code point. -/
  | found
  /-- The index in the middle is not one of the table. -/
  | outside
  | next (w : Window)
deriving DecidableEq

/-- One step of the search: it gives up the half of the window that the middle rules out. -/
def turn (t : Table) (c : Int) (w : Window) : Turn :=
  if w.hi < w.lo then .exhausted
  else match t.at? w.mid with
    | none => .outside
    | some i =>
      if i.last < c then .next ⟨w.mid + 1, w.hi⟩
      else if c < i.first then .next ⟨w.lo, w.mid - 1⟩
      else .found

variable {t : Table} {c : Int} {w w' : Window} {i : Interval}

theorem at?_natCast (t : Table) (k : Nat) : t.at? k = t[k]? := by
  rw [at?, if_pos (Int.natCast_nonneg k), Int.toNat_natCast]

theorem exists_at?_eq {k : Int} (hk : 0 ≤ k) (hsize : k < t.size) : ∃ i, t.at? k = some i := by
  have hlt : k.toNat < t.size := by omega
  exact ⟨t[k.toNat], by rw [at?, if_pos hk, Array.getElem?_eq_getElem hlt]⟩

theorem turn_eq_exhausted_iff : t.turn c w = .exhausted ↔ w.hi < w.lo := by
  refine ⟨fun h => ?_, fun h => by rw [turn, if_pos h]⟩
  unfold turn at h
  split at h
  · assumption
  · split at h
    · cases h
    · split at h
      · cases h
      · split at h
        all_goals cases h

/-- What a step does when it finds an interval in the middle. -/
theorem turn_of_at? (hopen : w.lo ≤ w.hi) (hi : t.at? w.mid = some i) :
    t.turn c w =
      if i.last < c then .next ⟨w.mid + 1, w.hi⟩
      else if c < i.first then .next ⟨w.lo, w.mid - 1⟩
      else .found := by
  rw [turn, if_neg (Int.not_lt.mpr hopen), hi]

/-- The window that is left after a step is one of two. -/
theorem next_cases (h : t.turn c w = .next w') :
    w.lo ≤ w.hi ∧ (w' = ⟨w.mid + 1, w.hi⟩ ∨ w' = ⟨w.lo, w.mid - 1⟩) := by
  unfold turn at h
  split at h
  · cases h
  next hopen =>
    refine ⟨Int.not_lt.mp hopen, ?_⟩
    split at h
    · cases h
    · split at h
      · exact .inl (Turn.next.inj h).symm
      · split at h
        · exact .inr (Turn.next.inj h).symm
        · cases h

/-- **A step halves the window**, on any table and wherever the window is. -/
theorem width_of_next (h : t.turn c w = .next w') :
    w'.width < w.width ∧ 2 * w'.width ≤ w.width := by
  obtain ⟨hopen, rfl | rfl⟩ := next_cases h
  · simp only [Window.width, Window.mid]
    omega
  · simp only [Window.width, Window.mid]
    omega

/-- **A step stays within the table**: the index in the middle is there, and the window that is left is
within the table again. -/
theorem turn_of_isWithin (h : w.IsWithin t) (c : Int) :
    t.turn c w = .exhausted ∨
      (0 ≤ w.mid ∧ w.mid < t.size) ∧
        (t.turn c w = .found ∨ ∃ w', t.turn c w = .next w' ∧ w'.IsWithin t) := by
  obtain ⟨hlo, hhi, -⟩ := h
  rcases Int.lt_or_le w.hi w.lo with hclosed | hopen
  · exact .inl (turn_eq_exhausted_iff.mpr hclosed)
  · -- The middle is between the ends; nothing else keeps the probe inside, on either side.
    have hmid : w.lo ≤ w.mid ∧ w.mid ≤ w.hi := by
      unfold Window.mid
      omega
    have hthere : 0 ≤ w.mid ∧ w.mid < t.size := by omega
    obtain ⟨i, hi⟩ := exists_at?_eq hthere.1 hthere.2
    refine .inr ⟨hthere, ?_⟩
    rw [turn_of_at? hopen hi]
    by_cases habove : i.last < c
    · rw [if_pos habove]
      exact .inr ⟨_, rfl, by simp only; omega, hhi, by simp only; omega⟩
    · rw [if_neg habove]
      by_cases hbelow : c < i.first
      · rw [if_pos hbelow]
        exact .inr ⟨_, rfl, hlo, by simp only; omega, by simp only; omega⟩
      · rw [if_neg hbelow]
        exact .inl rfl

/-! ## A whole run -/

/-- The course of a search: the indices looked up, one after the other, and the answer, unless an index
was not one of the table. -/
structure Course where
  probes : List Int
  answer : Option Bool
deriving DecidableEq

/-- Searches a window, step by step. -/
def course (t : Table) (c : Int) (w : Window) : Course :=
  match h : t.turn c w with
  | .exhausted => ⟨[], some false⟩
  | .found => ⟨[w.mid], some true⟩
  | .outside => ⟨[w.mid], none⟩
  | .next w' =>
    have := (width_of_next h).1
    let rest := course t c w'
    ⟨w.mid :: rest.probes, rest.answer⟩
termination_by w.width

theorem course_of_exhausted (h : t.turn c w = .exhausted) : t.course c w = ⟨[], some false⟩ := by
  rw [course]
  split
  all_goals simp_all

theorem course_of_found (h : t.turn c w = .found) : t.course c w = ⟨[w.mid], some true⟩ := by
  rw [course]
  split
  all_goals simp_all

theorem course_of_outside (h : t.turn c w = .outside) : t.course c w = ⟨[w.mid], none⟩ := by
  rw [course]
  split
  all_goals simp_all

theorem course_of_next (h : t.turn c w = .next w') :
    t.course c w = ⟨w.mid :: (t.course c w').probes, (t.course c w').answer⟩ := by
  rw [course]
  split
  all_goals simp_all

/-- **A run that begins within the table stays there**: every index that it looks up is one of the
table. -/
theorem course_probes (w : Window) (h : w.IsWithin t) :
    ∀ k ∈ (t.course c w).probes, 0 ≤ k ∧ k < t.size := by
  rcases turn_of_isWithin h c with hturn | ⟨hmid, hturn | ⟨w', hturn, hw'⟩⟩
  · rw [course_of_exhausted hturn]
    simp
  · rw [course_of_found hturn]
    simpa using hmid
  · have := (width_of_next hturn).1
    rw [course_of_next hturn]
    exact List.forall_mem_cons.mpr ⟨hmid, course_probes w' hw'⟩
termination_by w.width

/-- A run makes no more probes than its window can be halved, with one for the last index. -/
theorem length_probes_course (t : Table) (c : Int) : ∀ (n : Nat) (w : Window), w.width < 2 ^ n →
    (t.course c w).probes.length ≤ n
  | 0, w, hn => by
    have hclosed : w.hi < w.lo := by
      unfold Window.width at hn
      omega
    rw [course_of_exhausted (turn_eq_exhausted_iff.mpr hclosed)]
    exact Nat.le_refl 0
  | n + 1, w, hn => by
    cases hturn : t.turn c w with
    | exhausted =>
      rw [course_of_exhausted hturn]
      exact Nat.zero_le _
    | found =>
      rw [course_of_found hturn]
      exact Nat.le_add_left 1 n
    | outside =>
      rw [course_of_outside hturn]
      exact Nat.le_add_left 1 n
    | next w' =>
      have hhalf := (width_of_next hturn).2
      rw [course_of_next hturn]
      exact Nat.succ_le_succ (length_probes_course t c n w' (by omega))

/-! ## The search of a table -/

theorem turn_natCast {lo hi : Nat} (hlt : lo < hi) (hmid : (lo + hi - 1) / 2 < t.size) :
    t.turn c ⟨lo, (hi : Int) - 1⟩ =
      if t[(lo + hi - 1) / 2].last < c then .next ⟨((lo + hi - 1) / 2 + 1 : Nat), (hi : Int) - 1⟩
      else if c < t[(lo + hi - 1) / 2].first then .next ⟨lo, ((lo + hi - 1) / 2 : Nat) - 1⟩
      else .found := by
  have hmiddle : Window.mid ⟨lo, (hi : Int) - 1⟩ = ((lo + hi - 1) / 2 : Nat) := by
    simp only [Window.mid]
    omega
  have hat : t.at? (Window.mid ⟨lo, (hi : Int) - 1⟩) = some t[(lo + hi - 1) / 2] := by
    rw [hmiddle, at?_natCast, Array.getElem?_eq_getElem hmid]
  rw [turn_of_at? (by simp only; omega) hat, hmiddle]
  rfl

/-- A window of natural numbers, which ends before `hi`, is searched with the same answer. -/
theorem course_answer {lo hi : Nat} (hhi : hi ≤ t.size) :
    (t.course c ⟨lo, (hi : Int) - 1⟩).answer = some (t.searchWithin c lo hi hhi) := by
  fun_induction searchWithin t c lo hi hhi with
  | case1 lo hi hhi hlt mid hmid habove ih =>
    rw [course_of_next ((turn_natCast hlt hmid).trans (if_pos habove))]
    exact ih
  | case2 lo hi hhi hlt mid hmid habove hbelow ih =>
    have hturn := (turn_natCast (c := c) hlt hmid).trans ((if_neg habove).trans (if_pos hbelow))
    rw [course_of_next hturn]
    exact ih
  | case3 lo hi hhi hlt mid hmid habove hbelow =>
    have hturn := (turn_natCast (c := c) hlt hmid).trans ((if_neg habove).trans (if_neg hbelow))
    rw [course_of_found hturn]
  | case4 lo hi hhi hlt =>
    rw [course_of_exhausted (turn_eq_exhausted_iff.mpr (by simp only; omega))]

/-- Searches the whole table, after looking up its first and its last interval for the two quick
refusals. -/
def bisection (t : Table) (c : Int) : Course :=
  match t.at? 0 with
  | none => ⟨[0], none⟩
  | some low =>
    if c < low.first then ⟨[0], some false⟩
    else match t.at? (t.size - 1) with
      | none => ⟨[0, t.size - 1], none⟩
      | some high =>
        if high.last < c then ⟨[0, t.size - 1], some false⟩
        else
          let rest := t.course c ⟨0, t.size - 1⟩
          ⟨0 :: (t.size - 1) :: rest.probes, rest.answer⟩

/-- The ends of a table that is not empty. -/
theorem at?_ends (h : 0 < t.size) (hlast : t.size - 1 < t.size) :
    t.at? 0 = some t[0] ∧ t.at? (t.size - 1) = some t[t.size - 1] := by
  have hcast : (t.size : Int) - 1 = (t.size - 1 : Nat) := by omega
  rw [hcast, at?_natCast]
  exact ⟨(at?_natCast t 0).trans (Array.getElem?_eq_getElem h), Array.getElem?_eq_getElem hlast⟩

theorem isWithin_whole (h : 0 < t.size) : Window.IsWithin ⟨0, t.size - 1⟩ t :=
  ⟨Int.le_refl 0, by simp only; omega, by simp only; omega⟩

/-- **The answer is that of the search**, also on an empty table, which has none. -/
theorem bisection_answer (t : Table) (c : Int) : (t.bisection c).answer = t.search? c := by
  rcases Nat.eq_zero_or_pos t.size with hempty | hpos
  · have hnone : t.at? 0 = none := (at?_natCast t 0).trans (Array.getElem?_eq_none (by omega))
    rw [bisection, hnone, search?_eq_none_iff.mpr hempty]
  · obtain ⟨hlow, hhigh⟩ := at?_ends hpos (Nat.sub_lt hpos Nat.one_pos)
    rw [bisection, hlow, search?, dif_pos hpos]
    simp only [hhigh]
    by_cases hbelow : c < t[0].first
    · rw [if_pos hbelow, if_pos (.inl hbelow)]
    · rw [if_neg hbelow]
      by_cases habove : t[t.size - 1].last < c
      · rw [if_pos habove, if_pos (.inr habove)]
      · rw [if_neg habove, if_neg (not_or.mpr ⟨hbelow, habove⟩)]
        exact course_answer (Nat.le_refl t.size)

/-- The indices looked up are those of the two refusals and those of a run. -/
theorem probes_bisection (h : 0 < t.size) :
    (t.bisection c).probes <+: 0 :: (t.size - 1) :: (t.course c ⟨0, t.size - 1⟩).probes := by
  obtain ⟨hlow, hhigh⟩ := at?_ends h (Nat.sub_lt h Nat.one_pos)
  rw [bisection, hlow]
  simp only [hhigh]
  split
  · exact ⟨_, rfl⟩
  · split
    · exact ⟨_, rfl⟩
    · exact List.prefix_rfl

/-- What is found in a table, some interval of it holds. -/
theorem covers_of_search? (h : t.search? c = some true) : t.covers c = true := by
  unfold search? at h
  split at h
  · split at h
    · cases h
    · obtain ⟨k, hk, -, -, hc⟩ := exists_mem_of_searchWithin (Option.some.inj h)
      exact covers_iff.mpr ⟨t[k], Array.getElem_mem hk, hc⟩
  · cases h

/-- **The search of a table that is not empty is safe and sound**, in whatever order the table is. It ends
with an answer, after probes of the two ends and one for each time that the size can be halved; every index
that it looks up is one of the table; and what it finds, some interval of the table holds. -/
theorem search?_of_any_order (h : 0 < t.size) (c : Int) :
    (∃ found, t.search? c = some found ∧ (t.bisection c).answer = some found) ∧
    (∀ k ∈ (t.bisection c).probes, 0 ≤ k ∧ k < t.size) ∧
    (t.bisection c).probes.length ≤ t.size.log2 + 3 ∧
    (t.search? c = some true → t.covers c = true) := by
  refine ⟨⟨t.search c, search?_eq_some h, ?_⟩, fun k hk => ?_, ?_, covers_of_search?⟩
  · rw [bisection_answer, search?_eq_some h]
  · have hrun := course_probes (c := c) _ (isWithin_whole h) k
    have hmem := (probes_bisection h).mem hk
    rcases List.mem_cons.mp hmem with rfl | hmem
    · omega
    · rcases List.mem_cons.mp hmem with rfl | hmem
      · omega
      · exact hrun hmem
  · have hwidth : Window.width ⟨0, t.size - 1⟩ < 2 ^ (t.size.log2 + 1) := by
      simpa [Window.width] using Nat.lt_log2_self
    have hrun := length_probes_course t c _ _ hwidth
    have hprobes := (probes_bisection (c := c) h).length_le
    simp only [List.length_cons] at hprobes
    omega

/-- A table with a reversed interval in the first place, and one in the last that overlaps others. -/
def disordered : Table := #[⟨9, 2⟩, ⟨30, 40⟩, ⟨5, 7⟩, ⟨-4, 35⟩]

/-- The two refusals let the code point through, and the run finds it on its way. -/
theorem search?_of_disorder :
    0 < disordered.size ∧ disordered.search? 33 = some true ∧ disordered.covers 33 = true ∧
      (disordered.bisection 33).probes = [0, 3, 1] := by
  have hsize : 0 < disordered.size := by decide
  have hcourse : disordered.bisection 33 = ⟨[0, 3, 1], some true⟩ := by decide +kernel
  obtain ⟨⟨found, hfound, hanswer⟩, -, -, hsound⟩ := search?_of_any_order hsize 33
  rw [hcourse] at hanswer
  obtain rfl := Option.some.inj hanswer
  exact ⟨hsize, hfound, hsound hfound, by rw [hcourse]⟩

end Table

end CellWidth
