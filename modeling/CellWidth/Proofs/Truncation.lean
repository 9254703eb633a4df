import CellWidth.Layout.Truncate
import CellWidth.Proofs.TextWidth

/-!
# How wide a cut text is

`Layout.truncate` has three outcomes: the text itself, a beginning of it with the ellipsis behind, and a
beginning of the ellipsis alone. The first two are within the width by construction. The third is
counted in characters, while the width is counted in cells; so it can be too wide, and it is whenever
the leading characters of the ellipsis are.

* `Layout.textWidth_fitting_le` — the beginning that stays leaves room for the ellipsis
* `Layout.textWidth_truncate_le_of_narrow` — an ellipsis without wide characters is never too wide
-/

namespace CellWidth.Layout

variable {m : Mode} {t e : List Char} {w : Int}

/-! ## The three outcomes -/

theorem truncate_of_fits (h : (textWidth m t : Int) ≤ w) : truncate m t w e = t :=
  if_pos h

theorem truncate_of_no_room (ht : w < textWidth m t) (he : w ≤ textWidth m e) :
    truncate m t w e = leading w e := by
  rw [truncate, if_neg (Int.not_le.mpr ht), if_pos he]

theorem truncate_of_room (ht : w < textWidth m t) (he : textWidth m e < w) :
    truncate m t w e = fitting m (w - textWidth m e).toNat t ++ e := by
  rw [truncate, if_neg (Int.not_le.mpr ht), if_neg (Int.not_le.mpr he)]

theorem leading_natCast (n : Nat) (t : List Char) : leading n t = t.take n := by
  rw [leading, if_pos (Int.natCast_nonneg n), Int.toNat_natCast]

/-- The beginning that stays fits into the room. -/
theorem textWidth_fitting_le : ∀ (t : List Char) (room : Nat),
    textWidth m (fitting m room t) ≤ room
  | [], room => Nat.zero_le room
  | c :: t, room => by
    rw [fitting]
    by_cases hc : cells m c.toNat ≤ room
    · have ht := textWidth_fitting_le t (room - cells m c.toNat)
      rw [if_pos hc, textWidth_cons]
      omega
    · rw [if_neg hc]
      exact Nat.zero_le room

/-! ## The width of the outcome -/

/-- The leading characters of the ellipsis decide: if they fit, the outcome does. -/
theorem textWidth_truncate_le {w : Nat} (he : textWidth m (e.take w) ≤ w) :
    textWidth m (truncate m t w e) ≤ w := by
  by_cases ht : textWidth m t ≤ w
  · rw [truncate_of_fits (Int.ofNat_le.mpr ht)]
    exact ht
  · have hwide : (w : Int) < textWidth m t := Int.ofNat_lt.mpr (Nat.lt_of_not_le ht)
    by_cases hfull : w ≤ textWidth m e
    · rw [truncate_of_no_room hwide (Int.ofNat_le.mpr hfull), leading_natCast]
      exact he
    · -- There is room: what stays of the text and the whole ellipsis share it.
      have hroom : (textWidth m e : Int) < w := Int.ofNat_lt.mpr (Nat.lt_of_not_le hfull)
      have hfit := textWidth_fitting_le (m := m) t ((w : Int) - textWidth m e).toNat
      rw [truncate_of_room hwide hroom, textWidth_append]
      omega

/-- **A cut text is within the width, unless the text is too wide and so is the beginning of the
ellipsis with as many characters as there are cells.** -/
theorem textWidth_truncate_le_iff (m : Mode) (t e : List Char) (w : Nat) :
    textWidth m (truncate m t w e) ≤ w ↔ textWidth m t ≤ w ∨ textWidth m (e.take w) ≤ w := by
  constructor
  · intro h
    by_cases ht : textWidth m t ≤ w
    · exact Or.inl ht
    · right
      by_cases hfull : w ≤ textWidth m e
      · have hwide : (w : Int) < textWidth m t := Int.ofNat_lt.mpr (Nat.lt_of_not_le ht)
        rw [truncate_of_no_room hwide (Int.ofNat_le.mpr hfull), leading_natCast] at h
        exact h
      · have htake := textWidth_take_le (m := m) w e
        omega
  · rintro (ht | he)
    · rw [truncate_of_fits (Int.ofNat_le.mpr ht)]
      exact ht
    · exact textWidth_truncate_le he

/-- In the legacy mode a middle dot takes two cells. As an ellipsis for a single cell it is too wide,
although it is a single character. -/
theorem truncate_to_wide_ellipsis :
    truncate .legacy ['a', 'b'] 1 ['·'] = ['·'] ∧
      ¬textWidth .legacy (truncate .legacy ['a', 'b'] 1 ['·']) ≤ 1 := by
  decide

/-- An ellipsis without wide characters keeps every text within the width. -/
theorem textWidth_truncate_le_of_narrow (he : ∀ c ∈ e, isWide m c.toNat = false) (w : Nat) :
    textWidth m (truncate m t w e) ≤ w := by
  refine textWidth_truncate_le ?_
  have hnarrow := textWidth_le_length (m := m) (e.take w) fun c hc => he c (List.mem_of_mem_take hc)
  rw [List.length_take] at hnarrow
  omega

/-- The usual ellipsis is narrow in both modes. -/
theorem isWide_of_mem_dots (m : Mode) : ∀ c ∈ dots, isWide m c.toNat = false := by
  intro c hc
  have hdot : c = '.' := by simpa [dots] using hc
  subst hdot
  cases m with
  | standard => decide
  | legacy => decide

end CellWidth.Layout
