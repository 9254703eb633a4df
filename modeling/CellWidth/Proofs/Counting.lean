import CellWidth.Proofs.TextWidth
import CellWidth.Proofs.Widening

/-!
# Counting cells

A character that shows fills a cell, and a wide one fills a second. So the cells of a text are counted
by asking two questions of each character: whether it shows, and whether it is wide. The first has
nothing to do with the mode, as the legacy mode widens only what has a cell already.

A count does not depend on an order. So two texts of the same characters have the same width.
-/

namespace CellWidth

variable {m : Mode}

/-! ## One character -/

/-- In both modes the same code points have a cell. -/
theorem isVisible_iff {c : Int} : isVisible c = true ↔ 0 < cells m c := by
  rw [isVisible, decide_eq_true_eq]
  cases m with
  | standard => rfl
  | legacy => exact (widensBy_cells c).pos_iff

theorem isWide_iff {c : Int} : isWide m c = true ↔ 1 < cells m c := by
  refine ⟨fun h => ?_, isWide_of_one_lt_cells⟩
  have hw : width m c = some 2 := by simpa [isWide] using h
  rw [cells, hw]
  decide

/-- One cell for a code point that shows, and one more for a wide one. -/
theorem cells_eq_count (c : Int) :
    cells m c = (if isVisible c = true then 1 else 0) + (if isWide m c = true then 1 else 0) := by
  have hle := cells_le_two (m := m) c
  simp only [isVisible_iff (m := m), isWide_iff]
  split <;> split <;> omega

theorem Symbol.isVisible_iff {x : Symbol} : x.isVisible = true ↔ 0 < x.cells m := by
  rw [Symbol.isVisible, decide_eq_true_eq]
  cases m with
  | standard => rfl
  | legacy => exact x.widensBy_cells.pos_iff

/-! ## All characters -/

theorem textWidth_eq_countP : ∀ t : List Char,
    textWidth m t = t.countP (fun c => isVisible c.toNat) + t.countP (fun c => isWide m c.toNat)
  | [] => rfl
  | c :: t => by
    rw [textWidth_cons, cells_eq_count, textWidth_eq_countP t, List.countP_cons, List.countP_cons]
    omega

theorem textWidth_perm {s t : List Char} (h : s.Perm t) : textWidth m s = textWidth m t := by
  rw [textWidth_eq_countP, textWidth_eq_countP, h.countP_eq, h.countP_eq]

/-- **The cells of a text are counted.** They are as many as the characters that show, and the wide ones
once more. So they add up where texts are put together, and the order of the characters does not matter;
and whether a character shows is the same in both modes. -/
theorem textWidth_counts (m : Mode) :
    (∀ t : List Char, textWidth m t =
      t.countP (fun c => (Symbol.text [c]).isVisible) +
        t.countP (fun c => (Symbol.text [c]).isWide m)) ∧
    (∀ s t : List Char, textWidth m (s ++ t) = textWidth m s + textWidth m t) ∧
    (∀ s t : List Char, s.Perm t → textWidth m s = textWidth m t) ∧
    ∀ x : Symbol, x.isVisible = true ↔ 0 < x.cells m :=
  ⟨textWidth_eq_countP, textWidth_append, fun _ _ => textWidth_perm, fun _ => Symbol.isVisible_iff⟩

/-- A letter of two cells and one of a single cell, with a control at the end or in front. -/
theorem textWidth_counts_either_order :
    ['é', 'a', '\x07'].Perm ['\x07', 'é', 'a'] ∧
      textWidth .legacy ['é', 'a', '\x07'] = 3 ∧
      textWidth .legacy ['é', 'a', '\x07'] = textWidth .legacy ['\x07', 'é', 'a'] := by
  have hperm : ['é', 'a', '\x07'].Perm ['\x07', 'é', 'a'] := by decide
  obtain ⟨hcount, -, horder, -⟩ := textWidth_counts .legacy
  exact ⟨hperm, hcount ['é', 'a', '\x07'], horder _ _ hperm⟩

end CellWidth
