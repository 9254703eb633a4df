import CellWidth.Proofs.Merging
import CellWidth.Proofs.Picking

/-!
# Lines that are refused, and lines that are passed over

A table is made from lines in one go. Whichever selection it is for, it is refused where some line cannot
be read, and for the first such line.

Where no line is refused, a line counts for what is taken from it alone: the interval it states, or
nothing. The merge sorts what is taken, reversed intervals with the others. So the order of the lines
does not matter, nor do the lines from which nothing is taken (`Selection.PassesOver`).

* `Selection.table_of_perm_passedOver` — other lines among them, and another order
* `refused_for_first_or_made` — when lines are refused, and what counts where they are not
-/

namespace CellWidth.Generator

open DataLine

namespace Selection

variable {sel : Selection} {lines added mixed : List (List Char)} {line : List Char}

/-- The line is read, and nothing is taken from it: it is silent, or its value is not selected. -/
def PassesOver (sel : Selection) (line : List Char) : Prop :=
  read line = .ok none ∨ ∃ d, States line d ∧ d.value ∉ sel.values

/-- A line that is passed over has been read. -/
theorem PassesOver.not_isRefused (h : sel.PassesOver line) : ¬IsRefused line := by
  rcases h with hread | ⟨d, hd, -⟩
  · exact not_isRefused_of_read hread
  · exact hd.not_isRefused

theorem PassesOver.taken? (h : sel.PassesOver line) : sel.taken? line = none := by
  rcases h with hread | ⟨d, hd, hvalue⟩
  · exact taken?_of_read hread
  · rw [taken?_of_states hd, if_neg fun hc => hvalue (List.contains_iff_mem.mp hc)]

/-- Where no line is refused the table is made of what is taken from each. -/
theorem table_of_not_isRefused (h : ∀ line ∈ lines, ¬IsRefused line) :
    sel.table lines = .ok (Interval.merge (sel.extra ++ lines.filterMap sel.taken?)) :=
  table_eq_ok_iff.mpr ⟨_, pick_of_not_isRefused h, rfl⟩

theorem filterMap_taken?_of_passesOver (h : ∀ line ∈ added, sel.PassesOver line) :
    added.filterMap sel.taken? = [] :=
  List.filterMap_eq_nil_iff.mpr fun line hline => (h line hline).taken?

/-- **Lines that are passed over can be put in anywhere, and the lines can be put in any order.** -/
theorem table_of_perm_passedOver (h : ∀ line ∈ lines, ¬IsRefused line)
    (hadded : ∀ line ∈ added, sel.PassesOver line) (hperm : mixed.Perm (added ++ lines)) :
    sel.table mixed = sel.table lines := by
  have hmixed : ∀ line ∈ mixed, ¬IsRefused line := by
    intro line hline
    rcases List.mem_append.mp (hperm.mem_iff.mp hline) with hline | hline
    · exact (hadded line hline).not_isRefused
    · exact h line hline
  have htaken : (mixed.filterMap sel.taken?).Perm (lines.filterMap sel.taken?) := by
    have hall := hperm.filterMap sel.taken?
    rwa [List.filterMap_append, filterMap_taken?_of_passesOver hadded, List.nil_append] at hall
  rw [table_of_not_isRefused hmixed, table_of_not_isRefused h,
    Interval.merge_eq_of_perm (htaken.append_left sel.extra)]

end Selection

/-! ## Both tables -/

/-- **A line that cannot be read is never skipped, and of the others only what is taken from them
counts.** Both tables are refused for the same reason. Whatever is selected, a table is refused just where
some line is, and for the first of them, whatever else it says and whatever lines are around it. Where no
line is refused the table is made, and the same table is made from these lines in any order, with any
lines among them that are silent or whose value is not selected. -/
theorem refused_for_first_or_made (lines : List (List Char)) :
    (∀ r, Selection.zeroWidth.table lines = .error r ↔ Selection.wide.table lines = .error r) ∧
    ∀ sel : Selection,
      ((∃ r, sel.table lines = .error r) ↔ ∃ line ∈ lines, IsRefused line) ∧
      (∀ r, sel.table lines = .error r ↔
        ∃ before line after, lines = before ++ line :: after ∧ (∀ l ∈ before, ¬IsRefused l) ∧
          read line = .error r) ∧
      ((∀ line ∈ lines, ¬IsRefused line) → ∃ is, sel.table lines = .ok is ∧
        ∀ added mixed, (∀ line ∈ added, read line = .ok none ∨
            ∃ d, States line d ∧ d.value ∉ sel.values) →
          mixed.Perm (added ++ lines) → sel.table mixed = .ok is) := by
  refine ⟨fun r => by rw [Selection.table_eq_error_iff, Selection.table_eq_error_iff], fun sel => ?_⟩
  refine ⟨?_, fun r => Selection.table_eq_error_iff, fun h => ?_⟩
  · simp only [Selection.table_eq_error_iff]
    exact exists_firstRefusal_iff
  · refine ⟨_, Selection.table_of_not_isRefused h, fun added mixed hadded hperm => ?_⟩
    rw [Selection.table_of_perm_passedOver h hadded hperm, Selection.table_of_not_isRefused h]

/-- A line for a letter, which no table takes, is refused where it cannot be read. -/
example : Selection.wide.table ["3000 ; F".toList, "xyz ; Lu".toList, "3001 ; W".toList]
    = .error (.notHexadecimal "xyz".toList) := by
  rfl

end CellWidth.Generator
