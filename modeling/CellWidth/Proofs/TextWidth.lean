import CellWidth.Width.Sequence

/-!
# The cells of a text

`textWidth` is a sum over the characters, so it can be taken apart wherever the text is taken apart.
A character fills two cells at most, and one at most where it is not wide in the mode at hand.
-/

namespace CellWidth

variable {m : Mode}

/-! ## One character -/

/-- No width is greater than two. -/
theorem le_two_of_standardWidth {c : Int} {n : Nat} (h : standardWidth c = some n) : n ≤ 2 := by
  unfold standardWidth at h
  repeat' split at h
  all_goals simp only [Option.some.injEq, reduceCtorEq] at h
  all_goals omega

theorem le_two_of_width {c : Int} {n : Nat} (h : width m c = some n) : n ≤ 2 := by
  cases m with
  | standard => exact le_two_of_standardWidth h
  | legacy =>
    simp only [width] at h
    split at h
    · exact Nat.le_of_eq (Option.some.inj h).symm
    · exact le_two_of_standardWidth h

theorem cells_le_two (c : Int) : cells m c ≤ 2 := by
  unfold cells
  cases hn : width m c with
  | none => exact Nat.zero_le 2
  | some n => exact le_two_of_width hn

/-- Only what is wide has two cells. -/
theorem cells_le_one {c : Int} (h : isWide m c = false) : cells m c ≤ 1 := by
  have hw : width m c ≠ some 2 := by simpa [isWide] using h
  unfold cells
  cases hn : width m c with
  | none => simp
  | some n =>
    have hle := le_two_of_width hn
    have hne : n ≠ 2 := fun he => hw (he ▸ hn)
    simp only [Option.getD_some]
    omega

theorem isWide_of_one_lt_cells {c : Int} (h : 1 < cells m c) : isWide m c = true := by
  cases hwide : isWide m c with
  | true => rfl
  | false => exact absurd (cells_le_one hwide) (Nat.not_le_of_lt h)

/-! ## A text and its parts -/

@[simp] theorem textWidth_nil : textWidth m [] = 0 := rfl

@[simp] theorem textWidth_cons (c : Char) (t : List Char) :
    textWidth m (c :: t) = cells m c.toNat + textWidth m t := rfl

/-- **The cells of a text are those of its parts together.** -/
@[simp] theorem textWidth_append : ∀ (s t : List Char),
    textWidth m (s ++ t) = textWidth m s + textWidth m t
  | [], t => by simp
  | c :: s, t => by
    rw [List.cons_append, textWidth_cons, textWidth_append s t, textWidth_cons, Nat.add_assoc]

/-- A beginning of a text has no more cells than the text. -/
theorem textWidth_le_of_begins {p t : List Char} (h : p <+: t) : textWidth m p ≤ textWidth m t := by
  obtain ⟨rest, rfl⟩ := h
  rw [textWidth_append]
  exact Nat.le_add_right _ _

/-- Leaving out characters without a cell changes nothing. -/
theorem textWidth_filter {keep : Char → Bool} : ∀ {t : List Char},
    (∀ c ∈ t, keep c = false → cells m c.toNat = 0) → textWidth m (t.filter keep) = textWidth m t
  | [], _ => rfl
  | c :: t, h => by
    obtain ⟨hc, ht⟩ := List.forall_mem_cons.mp h
    have ih := textWidth_filter ht
    cases hkeep : keep c with
    | true => rw [List.filter_cons_of_pos hkeep, textWidth_cons, ih, textWidth_cons]
    | false =>
      rw [List.filter_cons_of_neg (by simp [hkeep]), ih, textWidth_cons, hc hkeep, Nat.zero_add]

theorem textWidth_take_le (n : Nat) (t : List Char) : textWidth m (t.take n) ≤ textWidth m t :=
  textWidth_le_of_begins (List.take_prefix n t)

/-- Copies of a text side by side. -/
theorem textWidth_flatten_replicate (t : List Char) : ∀ n : Nat,
    textWidth m (List.replicate n t).flatten = n * textWidth m t
  | 0 => by simp
  | n + 1 => by
    rw [List.replicate_succ, List.flatten_cons, textWidth_append,
      textWidth_flatten_replicate t n, Nat.succ_mul, Nat.add_comm]

/-- Without wide characters a text has no more cells than characters. -/
theorem textWidth_le_length : ∀ t : List Char, (∀ c ∈ t, isWide m c.toNat = false) →
    textWidth m t ≤ t.length
  | [], _ => Nat.le_refl _
  | c :: t, h => by
    have hc := cells_le_one (h c List.mem_cons_self)
    have ht := textWidth_le_length t fun x hx => h x (List.mem_cons_of_mem _ hx)
    rw [textWidth_cons, List.length_cons]
    omega

end CellWidth
