import CellWidth.Proofs.Merging
import CellWidth.Proofs.Picking

/-!
# What a table made from lines holds

Every line of a file is silent, or states an interval with a value, or is refused. Where no line is
refused and no interval is reversed (`DataLine.IsFit`), a table is made, and it is fit for searching.
The search then finds the code points of the extra intervals and of the lines with a selected value,
and no others.

Between the lines and the search stand four steps, each with one lemma here or in the modules before:
a line is read, the selected intervals are picked, they are merged, and the outcome is in the order that
the search relies on.

* `Selection.mem_pick_iff` — the intervals that are picked are those of the selected lines
* `Selection.table_of_fit` — what the table holds
* `tables_of_fit` — the same of both tables, in terms of the search
-/

namespace CellWidth

/-- The search answers for every code point, and finds those with a property. -/
def Table.Finds (t : Table) (p : Int → Prop) : Prop :=
  ∀ c, (p c → t.search? c = some true) ∧ (¬p c → t.search? c = some false)

/-- Intervals in ascending order pass the check, and the search finds the code points they hold. -/
theorem Table.Ascending.check_and_finds {is : List Interval} (ht : Table.Ascending is.toArray)
    (hne : is ≠ []) {p : Int → Prop} (hp : ∀ c, Table.covers is.toArray c = true ↔ p c) :
    Table.check is.toArray = .ok is.length ∧ Table.Finds is.toArray p := by
  have hpos : 0 < is.toArray.size := List.length_pos_iff.mpr hne
  refine ⟨Table.check_eq_ok_iff.mpr ⟨rfl, hpos, ht⟩, fun c => ?_⟩
  rw [ht.search? hpos]
  refine ⟨fun h => congrArg some ((hp c).mpr h), fun h => congrArg some ?_⟩
  exact Bool.eq_false_iff.mpr fun hcovers => h ((hp c).mp hcovers)

theorem Interval.mem_single_iff {c d : Int} : c ∈ Interval.single d ↔ c = d := by
  simp only [Interval.single, Interval.mem_iff]
  omega

namespace Generator

/-! ## Lines -/

namespace DataLine

variable {line : List Char} {d : DataLine}

/-- The line holds no data: it is blank, or a comment. -/
def IsSilent (line : List Char) : Prop :=
  Text.trim line = [] ∨ ∃ rest, Text.trim line = '#' :: rest

/-- The line is silent, or it is read and its interval is not reversed. -/
def IsFit (line : List Char) : Prop :=
  IsSilent line ∨ ∃ d, States line d ∧ d.interval.first ≤ d.interval.last

/-- A silent line is read, and gives nothing. -/
theorem read_of_isSilent (h : IsSilent line) : read line = .ok none := by
  rcases h with hblank | ⟨rest, hcomment⟩
  · rw [read, hblank]
  · rw [read, hcomment]
    rfl

theorem IsFit.not_isRefused (h : IsFit line) : ¬IsRefused line := by
  rcases h with hsilent | ⟨d, hd, -⟩
  · exact not_isRefused_of_read (read_of_isSilent hsilent)
  · exact hd.not_isRefused

theorem IsFit.proper (h : IsFit line) (hd : States line d) :
    d.interval.first ≤ d.interval.last := by
  rcases h with hsilent | ⟨e, he, hproper⟩
  · exact absurd hd (not_states_of_read (read_of_isSilent hsilent))
  · rw [he.unique hd]
    exact hproper

/-- Some line says this, and its value is one of the given ones. -/
def Given (values : List (List Char)) (lines : List (List Char)) (d : DataLine) : Prop :=
  ∃ line ∈ lines, States line d ∧ d.value ∈ values

end DataLine

open DataLine

/-! ## Picking -/

namespace Selection

variable {sel : Selection} {lines : List (List Char)}

/-- **The intervals that are picked are those of the lines with a selected value.** -/
theorem mem_pick_iff {is : List Interval} (h : sel.pick lines = .ok is) (i : Interval) :
    i ∈ is ↔ ∃ d, Given sel.values lines d ∧ d.interval = i := by
  obtain ⟨-, rfl⟩ := pick_eq_ok_iff.mp h
  simp only [List.mem_filterMap, taken?_eq_some_iff, Given]
  constructor
  · rintro ⟨line, hline, d, hd, hvalue, rfl⟩
    exact ⟨d, ⟨line, hline, hd, hvalue⟩, rfl⟩
  · rintro ⟨d, ⟨line, hline, hd, hvalue⟩, rfl⟩
    exact ⟨line, hline, d, hd, hvalue, rfl⟩

/-- The code points that are picked are those of the lines with a selected value. -/
theorem exists_mem_pick_iff {is : List Interval} (h : sel.pick lines = .ok is) (c : Int) :
    (∃ i ∈ is, c ∈ i) ↔ ∃ d, Given sel.values lines d ∧ c ∈ d.interval := by
  simp only [mem_pick_iff h]
  constructor
  · rintro ⟨i, ⟨d, hd, rfl⟩, hc⟩
    exact ⟨d, hd, hc⟩
  · rintro ⟨d, hd, hc⟩
    exact ⟨d.interval, ⟨d, hd, rfl⟩, hc⟩

/-- Fitting lines are picked from to the end. -/
theorem exists_pick_of_fit (lines : List (List Char)) (h : ∀ line ∈ lines, IsFit line) :
    ∃ is, sel.pick lines = .ok is :=
  ⟨_, pick_of_not_isRefused fun line hline => (h line hline).not_isRefused⟩

/-! ## The table -/

/-- **What the table holds.** It is in ascending order, empty only where nothing goes into it, and it
covers the extra intervals and those of the lines with a selected value. -/
theorem table_of_fit (hextra : ∀ i ∈ sel.extra, i.first ≤ i.last)
    (h : ∀ line ∈ lines, IsFit line) :
    ∃ is, sel.table lines = .ok is ∧ Table.Ascending is.toArray ∧
      (is = [] ↔ sel.extra = [] ∧ ¬∃ d, Given sel.values lines d) ∧
      ∀ c, Table.covers is.toArray c = true ↔
        (∃ i ∈ sel.extra, c ∈ i) ∨ ∃ d, Given sel.values lines d ∧ c ∈ d.interval := by
  obtain ⟨picked, hpick⟩ := sel.exists_pick_of_fit lines h
  have hmem := mem_pick_iff hpick
  have hproper : ∀ i ∈ sel.extra ++ picked, i.first ≤ i.last := by
    intro i hi
    rcases List.mem_append.mp hi with hi | hi
    · exact hextra i hi
    · obtain ⟨d, ⟨line, hline, hd, -⟩, rfl⟩ := (hmem i).mp hi
      exact (h line hline).proper hd
  refine ⟨Interval.merge (sel.extra ++ picked), table_eq_ok_iff.mpr ⟨picked, hpick, rfl⟩,
    Interval.ascending_merge hproper, ?_, fun c => ?_⟩
  · rw [Interval.merge_eq_nil_iff, List.append_eq_nil_iff]
    refine and_congr_right fun _ => ?_
    constructor
    · rintro rfl ⟨d, hd⟩
      exact List.not_mem_nil ((hmem d.interval).mpr ⟨d, hd, rfl⟩)
    · intro hnone
      refine List.eq_nil_iff_forall_not_mem.mpr fun i hi => ?_
      obtain ⟨d, hd, -⟩ := (hmem i).mp hi
      exact hnone ⟨d, hd⟩
  · rw [Table.covers_iff, ← exists_mem_pick_iff hpick]
    simp only [List.mem_toArray, Interval.exists_mem_merge_iff, List.mem_append, or_and_right,
      exists_or]

end Selection

/-! ## The two tables -/

/-- **Both tables from the lines of a file.** No line is refused, so both are made. The table of code
points without width is fit for searching, and the search finds ZERO WIDTH SPACE and what the lines for
marks and format characters hold. The wide table is empty just where no line is for wide or fullwidth
characters; otherwise it is fit for searching too, and the search finds what those lines hold. -/
theorem tables_of_fit {lines : List (List Char)} (h : ∀ line ∈ lines, IsFit line) :
    (∃ is, Selection.zeroWidth.table lines = .ok is ∧ Table.check is.toArray = .ok is.length ∧
      Table.Finds is.toArray fun c => c = 0x200B ∨
        ∃ d, Given [['M', 'n'], ['M', 'e'], ['C', 'f']] lines d ∧ c ∈ d.interval) ∧
    ∃ is, Selection.wide.table lines = .ok is ∧
      (is = [] ↔ ¬∃ d, Given [['W'], ['F']] lines d) ∧
      (is ≠ [] → Table.check is.toArray = .ok is.length ∧
        Table.Finds is.toArray fun c => ∃ d, Given [['W'], ['F']] lines d ∧ c ∈ d.interval) := by
  constructor
  · obtain ⟨is, his, hasc, hnil, hcovers⟩ := Selection.zeroWidth.table_of_fit (by decide) h
    have hne : is ≠ [] := fun he => List.cons_ne_nil _ _ (hnil.mp he).1
    have hextra : ∀ c, (∃ i ∈ Selection.zeroWidth.extra, c ∈ i) ↔ c = 0x200B := fun c => by
      simp only [Selection.zeroWidth, List.mem_singleton, exists_eq_left, Interval.mem_single_iff]
    exact ⟨is, his, hasc.check_and_finds hne fun c =>
      (hcovers c).trans (or_congr_left (hextra c))⟩
  · obtain ⟨is, his, hasc, hnil, hcovers⟩ := Selection.wide.table_of_fit (by decide) h
    have hextra : ∀ c : Int, ¬∃ i ∈ Selection.wide.extra, c ∈ i := fun c => by
      rintro ⟨i, hi, -⟩
      exact List.not_mem_nil hi
    refine ⟨is, his, hnil.trans (and_iff_right rfl), fun hne => ?_⟩
    exact hasc.check_and_finds hne fun c => (hcovers c).trans (or_iff_right (hextra c))

/-- A comment, a blank line, and data in no order: two intervals that touch, and two lines whose values
are not for the wide table. -/
def touchingLines : List (List Char) :=
  ["# width".toList, " \t".toList, "3001..3003 ; W # marks".toList, "0041;Na".toList,
    "3000;F".toList, "00AD ; Cf".toList]

theorem search?_wide_of_touchingLines :
    (∀ line ∈ touchingLines, IsFit line) ∧
      ∃ is, Selection.wide.table touchingLines = .ok is ∧
        Table.check is.toArray = .ok is.length ∧ Table.search? is.toArray 0x3002 = some true := by
  let marks : DataLine := ⟨⟨0x3001, 0x3003⟩, ['W']⟩
  have hfit : ∀ line ∈ touchingLines, IsFit line := by
    intro line hline
    simp only [touchingLines, List.mem_cons, List.not_mem_nil, or_false] at hline
    rcases hline with rfl | rfl | rfl | rfl | rfl | rfl
    · exact Or.inl (Or.inr ⟨_, rfl⟩)
    · exact Or.inl (Or.inl rfl)
    · exact Or.inr ⟨marks, rfl, by decide⟩
    · exact Or.inr ⟨⟨.single 0x41, ['N', 'a']⟩, rfl, by decide⟩
    · exact Or.inr ⟨⟨.single 0x3000, ['F']⟩, rfl, by decide⟩
    · exact Or.inr ⟨⟨.single 0xAD, ['C', 'f']⟩, rfl, by decide⟩
  have hmarks : Given [['W'], ['F']] touchingLines marks :=
    ⟨"3001..3003 ; W # marks".toList, by simp [touchingLines], rfl, by decide⟩
  obtain ⟨-, is, his, hnil, hsearch⟩ := tables_of_fit hfit
  obtain ⟨hcheck, hfinds⟩ := hsearch fun he => hnil.mp he ⟨marks, hmarks⟩
  exact ⟨hfit, is, his, hcheck, (hfinds 0x3002).1 ⟨marks, hmarks, by decide⟩⟩

end Generator

end CellWidth
