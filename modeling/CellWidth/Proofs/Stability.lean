import CellWidth.Proofs.Padding

/-!
# A second time

A text that has been cut is not cut any further, and one that has been filled up is not filled up any
further, although neither needs to have the width it was made for. A cut text can be too wide: then it is
a beginning of the ellipsis, and the second cut, which begins the ellipsis anew, is the same. A filled
text can be too narrow: then it lacks less than a further copy takes.

* `Layout.truncate_truncate` — cutting
* `Layout.pad_of_pad` — filling up
-/

namespace CellWidth.Layout

variable {room : Room} {m : Mode} {a : Align} {t e fill r : List Char} {w : Int}

/-! ## Cutting -/

/-- Where there is room for the ellipsis and more, the cut text is within the width. -/
theorem textWidth_truncate_le_of_room (ht : w < textWidth m t) (he : textWidth m e < w) :
    (textWidth m (truncate m t w e) : Int) ≤ w := by
  have hfit := textWidth_fitting_le (m := m) t (w - textWidth m e).toNat
  rw [truncate_of_room ht he, textWidth_append]
  omega

/-- A cut text is not cut any further. -/
theorem truncate_truncate (m : Mode) (t : List Char) (w : Int) (e : List Char) :
    truncate m (truncate m t w e) w e = truncate m t w e := by
  by_cases ht : (textWidth m t : Int) ≤ w
  · rw [truncate_of_fits ht, truncate_of_fits ht]
  · have hwide := Int.not_le.mp ht
    by_cases he : w ≤ textWidth m e
    · -- What is left is a beginning of the ellipsis, of whatever width.
      rw [truncate_of_no_room hwide he]
      by_cases hl : (textWidth m (leading w e) : Int) ≤ w
      · exact truncate_of_fits hl
      · exact truncate_of_no_room (Int.not_le.mp hl) he
    · exact truncate_of_fits (textWidth_truncate_le_of_room hwide (Int.not_le.mp he))

/-! ## Filling up -/

/-- A filled text lacks less than a further copy would take. -/
theorem copyCount_of_pad (h : pad room m t w a fill = .ok r) : copyCount m r w fill = 0 := by
  have hwidth := textWidth_of_pad h
  obtain ⟨hcount, hless⟩ := copyCount_mul_add m t w fill
  have hlack : lacking m r w < (advancing m fill).2 := by
    unfold lacking at *
    omega
  exact Nat.div_eq_of_lt hlack

/-- A filled text is not filled up any further, and that takes no room. -/
theorem pad_of_pad (h : pad room m t w a fill = .ok r) (room' : Room) :
    pad room' m r w a fill = .ok r := by
  rw [pad_eq_around, copyCount_of_pad h, around_zero]

/-- **Cut or filled up once, a text stays as it is.** For every width, below zero as well, every ellipsis
and every fill, the same cut and the same filling up leave their outcome alone. Where the filling up is
refused, since a text that is made on the way cannot be made, there is no outcome. -/
theorem once_is_enough (m : Mode) (t : List Char) (w : Int) (e : List Char) (room : Room) (a : Align)
    (fill : List Char) :
    truncate m (truncate m t w e) w e = truncate m t w e ∧
    (a.CanFill room (copyCount m t w fill) (advancing m fill).1 t →
      ∃ r, pad room m t w a fill = .ok r ∧ pad room m r w a fill = .ok r) ∧
    (¬a.CanFill room (copyCount m t w fill) (advancing m fill).1 t →
      pad room m t w a fill = .error .tooMany ∨ pad room m t w a fill = .error .tooLong) := by
  refine ⟨truncate_truncate m t w e, fun hroom => ?_, pad_of_not_canFill⟩
  have hpad := pad_of_canFill (m := m) (t := t) (w := w) hroom
  exact ⟨_, hpad, pad_of_pad hpad room⟩

/-- A negative width takes characters from the end of the ellipsis, and what is left is too wide. The
second cut does not take them from what is left. -/
example :
    truncate .standard ['a', 'b'] (-1) dots = ['.', '.'] ∧
      truncate .standard ['.', '.'] (-1) dots = ['.', '.'] := by
  decide

end CellWidth.Layout
