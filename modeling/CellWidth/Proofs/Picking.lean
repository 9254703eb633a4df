import CellWidth.Generator.Selection

/-!
# What is picked from lines

A selection takes from each line that is read the interval it states, if its value is selected, and
otherwise nothing (`Selection.taken?`). What it picks from the lines of a file is what it takes from each
of them, in their order.

But a line that cannot be read (`DataLine.IsRefused`) ends it all. Values are not looked at before that:
whatever is selected, the outcome is the refusal of the first such line (`DataLine.FirstRefusal`).

* `Selection.pick_eq_error_iff` — lines are refused for the first of them that is
* `Selection.pick_eq_ok_iff` — what is picked where none is refused
* `Selection.table_eq_error_iff`, `Selection.table_eq_ok_iff` — the same of the table made of it
-/

namespace CellWidth.Generator

namespace DataLine

variable {line : List Char} {lines : List (List Char)} {d : DataLine} {r : Refusal}

/-! ## One line -/

/-- The line is read, and this is what it says. -/
def States (line : List Char) (d : DataLine) : Prop :=
  read line = .ok (some d)

/-- The line cannot be read. -/
def IsRefused (line : List Char) : Prop :=
  ∃ r, read line = .error r

theorem not_states_of_read (h : read line = .ok none) : ¬States line d := by
  rw [States, h]
  intro he
  cases he

/-- A line states one thing at most. -/
theorem States.unique {e : DataLine} (hd : States line d) (he : States line e) : e = d := by
  rw [States, hd] at he
  exact (Option.some.inj (Except.ok.inj he)).symm

/-- A line that is not refused is silent, or states something. -/
theorem read_of_not_isRefused (h : ¬IsRefused line) : read line = .ok none ∨ ∃ d, States line d := by
  cases hread : read line with
  | error r => exact absurd ⟨r, hread⟩ h
  | ok found =>
    cases found with
    | none => exact Or.inl rfl
    | some d => exact Or.inr ⟨d, hread⟩

/-- A silent line is not refused. -/
theorem not_isRefused_of_read (h : read line = .ok none) : ¬IsRefused line := by
  rintro ⟨r, hr⟩
  rw [h] at hr
  cases hr

theorem States.not_isRefused (h : States line d) : ¬IsRefused line := by
  rintro ⟨r, hr⟩
  rw [States, hr] at h
  cases h

/-! ## The first line that is refused -/

/-- Some line cannot be read, and this is why the first of them cannot. -/
def FirstRefusal (lines : List (List Char)) (r : Refusal) : Prop :=
  ∃ before line after, lines = before ++ line :: after ∧ (∀ l ∈ before, ¬IsRefused l) ∧
    read line = .error r

/-- A line that is not refused can come before the first one that is. -/
theorem FirstRefusal.cons (hline : ¬IsRefused line) (h : FirstRefusal lines r) :
    FirstRefusal (line :: lines) r := by
  obtain ⟨before, faulty, after, rfl, hbefore, hfaulty⟩ := h
  exact ⟨line :: before, faulty, after, rfl, List.forall_mem_cons.mpr ⟨hline, hbefore⟩, hfaulty⟩

/-- Where some line is refused, there is a first one. -/
theorem exists_firstRefusal_iff :
    (∃ r, FirstRefusal lines r) ↔ ∃ line ∈ lines, IsRefused line := by
  constructor
  · rintro ⟨r, before, line, after, rfl, -, hline⟩
    exact ⟨line, List.mem_append_right before List.mem_cons_self, r, hline⟩
  · intro h
    induction lines with
    | nil => simp at h
    | cons line lines ih =>
      by_cases hline : IsRefused line
      · obtain ⟨r, hr⟩ := hline
        exact ⟨r, [], line, lines, rfl, List.forall_mem_nil _, hr⟩
      · simp only [List.mem_cons, exists_eq_or_imp] at h
        obtain ⟨r, hr⟩ := ih (h.resolve_left hline)
        exact ⟨r, hr.cons hline⟩

end DataLine

open DataLine

namespace Selection

variable {sel : Selection} {line : List Char} {lines : List (List Char)} {r : Refusal}
  {d : DataLine} {is : List Interval} {i : Interval}

/-! ## Where a line is refused -/

/-- A refused line ends it. -/
theorem pick_cons_of_error (h : read line = .error r) : sel.pick (line :: lines) = .error r := by
  rw [pick, h]

/-- A silent line is passed over. -/
theorem pick_cons_of_read (h : read line = .ok none) : sel.pick (line :: lines) = sel.pick lines := by
  rw [pick, h]

/-- A line that states something adds its interval, if the value is selected. -/
theorem pick_cons_of_states (h : States line d) (his : sel.pick lines = .ok is) :
    sel.pick (line :: lines) =
      .ok (if sel.values.contains d.value then d.interval :: is else is) := by
  rw [pick, show read line = .ok (some d) from h, his]

/-- A line that is not refused leaves it to the others whether there is a refusal. -/
theorem pick_cons_eq_error_iff (h : ¬IsRefused line) :
    sel.pick (line :: lines) = .error r ↔ sel.pick lines = .error r := by
  rcases read_of_not_isRefused h with hread | ⟨d, hd⟩
  · rw [pick_cons_of_read hread]
  · cases hpick : sel.pick lines with
    | ok is =>
      rw [pick_cons_of_states hd hpick]
      simp only [reduceCtorEq]
    | error r' => rw [pick, show read line = .ok (some d) from hd, hpick]

/-- Lines that are not refused do not keep a later one from being so. -/
theorem pick_append_of_error {before after : List (List Char)} (hbefore : ∀ l ∈ before, ¬IsRefused l)
    (h : read line = .error r) : sel.pick (before ++ line :: after) = .error r := by
  induction before with
  | nil => exact pick_cons_of_error h
  | cons l before ih =>
    obtain ⟨hl, hbefore⟩ := List.forall_mem_cons.mp hbefore
    rw [List.cons_append, pick_cons_eq_error_iff hl]
    exact ih hbefore

/-- Whatever is picked before it, a refusal is that of the first line refused. -/
theorem firstRefusal_of_pick (h : sel.pick lines = .error r) : FirstRefusal lines r := by
  induction lines with
  | nil => cases h
  | cons line lines ih =>
    by_cases hline : IsRefused line
    · obtain ⟨r', hr'⟩ := hline
      rw [pick_cons_of_error hr'] at h
      exact ⟨[], line, lines, rfl, List.forall_mem_nil _, Except.error.inj h ▸ hr'⟩
    · exact (ih ((pick_cons_eq_error_iff hline).mp h)).cons hline

/-- **Lines are refused for the first of them that is**, whatever is selected. -/
theorem pick_eq_error_iff : sel.pick lines = .error r ↔ FirstRefusal lines r := by
  refine ⟨firstRefusal_of_pick, ?_⟩
  rintro ⟨before, line, after, rfl, hbefore, hline⟩
  exact pick_append_of_error hbefore hline

/-! ## Where no line is refused -/

/-- What is taken from a line: the interval that it states, if its value is selected. -/
def taken? (sel : Selection) (line : List Char) : Option Interval :=
  match read line with
  | .ok (some d) => if sel.values.contains d.value then some d.interval else none
  | _ => none

theorem taken?_of_read (h : read line = .ok none) : sel.taken? line = none := by
  rw [taken?, h]

/-- Only the value decides whether the interval is taken. -/
theorem taken?_of_states (h : States line d) :
    sel.taken? line = if sel.values.contains d.value then some d.interval else none := by
  rw [taken?, show read line = .ok (some d) from h]

/-- Where an interval is taken, a line states it with a selected value. -/
theorem taken?_eq_some_iff :
    sel.taken? line = some i ↔ ∃ d, States line d ∧ d.value ∈ sel.values ∧ d.interval = i := by
  constructor
  · intro h
    rw [taken?] at h
    split at h
    · next d hd =>
      rw [Option.ite_none_right_eq_some] at h
      exact ⟨d, hd, List.contains_iff_mem.mp h.1, Option.some.inj h.2⟩
    · cases h
  · rintro ⟨d, hd, hvalue, rfl⟩
    rw [taken?_of_states hd, if_pos (List.contains_iff_mem.mpr hvalue)]

theorem pick_of_not_isRefused (h : ∀ line ∈ lines, ¬IsRefused line) :
    sel.pick lines = .ok (lines.filterMap sel.taken?) := by
  induction lines with
  | nil => rfl
  | cons line lines ih =>
    obtain ⟨hline, hlines⟩ := List.forall_mem_cons.mp h
    rcases read_of_not_isRefused hline with hread | ⟨d, hd⟩
    · rw [pick_cons_of_read hread, ih hlines, List.filterMap_cons_none (taken?_of_read hread)]
    · rw [pick_cons_of_states hd (ih hlines), List.filterMap_cons, taken?_of_states hd]
      by_cases hvalue : sel.values.contains d.value = true
      · rw [if_pos hvalue, if_pos hvalue]
      · rw [if_neg hvalue, if_neg hvalue]

/-- **What is picked** where no line is refused is what is taken from each of them. -/
theorem pick_eq_ok_iff :
    sel.pick lines = .ok is ↔
      (∀ line ∈ lines, ¬IsRefused line) ∧ is = lines.filterMap sel.taken? := by
  constructor
  · intro h
    -- With a refused line there is a first one, and the picking would end there.
    have hnone : ∀ line ∈ lines, ¬IsRefused line := by
      intro line hline hrefused
      obtain ⟨r, hr⟩ := exists_firstRefusal_iff.mpr ⟨line, hline, hrefused⟩
      rw [pick_eq_error_iff.mpr hr] at h
      cases h
    exact ⟨hnone, Except.ok.inj (h.symm.trans (pick_of_not_isRefused hnone))⟩
  · rintro ⟨hnone, rfl⟩
    exact pick_of_not_isRefused hnone

/-! ## The table -/

/-- Merging refuses nothing, so that a table is refused where the picking is. -/
theorem table_eq_error_iff : sel.table lines = .error r ↔ FirstRefusal lines r := by
  have hpick : sel.pick lines = .error r ↔ FirstRefusal lines r := pick_eq_error_iff
  rw [← hpick, table]
  cases sel.pick lines with
  | error r' => rfl
  | ok picked => simp only [reduceCtorEq]

/-- A table that is made is what is picked and the extra intervals, merged. -/
theorem table_eq_ok_iff :
    sel.table lines = .ok is ↔
      ∃ picked, sel.pick lines = .ok picked ∧ is = Interval.merge (sel.extra ++ picked) := by
  rw [table]
  cases sel.pick lines with
  | error r' => simp only [reduceCtorEq, false_and, exists_false]
  | ok picked => simp only [Except.ok.injEq, exists_eq_left', eq_comm]

end Selection

end CellWidth.Generator
