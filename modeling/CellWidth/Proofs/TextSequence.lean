import CellWidth.Proofs.Sequences
import CellWidth.Proofs.TextWidth
import Mathlib.Data.List.TakeWhile

/-!
# A text measured as a sequence

There are two ways to measure a text. The lenient one, `textWidth`, goes through all of it and passes
over what has no width. The strict one, `Sequence.width`, takes the characters as elements: it stops at
the first NUL, and has no answer where it meets a control before that.

Neither is a case of the other, but each can be had from the other. What the strict one measures is a
beginning of the text, and there the two agree as long as it has an answer. What the lenient one passes
over, NUL and the controls, fills no cell, so it can be taken away beforehand; then the strict one finds
nothing to stop at.

* `total_ofText` — the strict measure by the lenient one
* `textWidth_withoutControls` — nothing is lost with NUL and the controls
* `width_of_text` — both directions, and a bound for every limit
-/

namespace CellWidth

variable {m : Mode} {t : List Char}

/-- What comes before the first NUL of a text; all of it if there is none. -/
def beforeNul (t : List Char) : List Char :=
  t.takeWhile (· ≠ '\x00')

/-- A text without its NULs and its controls. -/
def withoutControls (t : List Char) : List Char :=
  t.filter fun c => c ≠ '\x00' ∧ ¬IsControl c.toNat

theorem beforeNul_begins (t : List Char) : beforeNul t <+: t :=
  List.takeWhile_prefix _

/-- What comes before the first NUL is a beginning of the text, and has no more cells. -/
theorem textWidth_beforeNul_le (t : List Char) : textWidth m (beforeNul t) ≤ textWidth m t :=
  textWidth_le_of_begins (beforeNul_begins t)

/-! ## The characters as elements -/

/-- Of the characters only NUL ends a sequence. -/
theorem isTerminator_point_toNat (c : Char) :
    (Symbol.point c.toNat).isTerminator = true ↔ c = '\x00' := by
  have hnul : c.toNat = 0 ↔ c = '\x00' := Char.toNat_inj (d := '\x00')
  simp [Symbol.isTerminator, Symbol.point?, hnul]

/-- What is measured of the characters of a text is what comes before its first NUL. -/
theorem measured_ofText (t : List Char) :
    Sequence.measured (Symbol.ofText t) = Symbol.ofText (beforeNul t) := by
  have hstop : (fun x : Symbol => !x.isTerminator) ∘ (fun c : Char => .point c.toNat) =
      fun c => decide (c ≠ '\x00') := by
    funext c
    simp [← isTerminator_point_toNat]
  rw [Sequence.measured, Symbol.ofText, List.takeWhile_map, hstop]
  rfl

theorem hasControl_ofText :
    Sequence.HasControl (Symbol.ofText t) ↔ (t.any fun c => IsControl c.toNat) = true := by
  simp only [List.any_eq_true, decide_eq_true_eq]
  constructor
  · rintro ⟨x, hx, p, hp, hcontrol⟩
    obtain ⟨c, hc, rfl⟩ := List.mem_map.mp hx
    obtain rfl := Option.some.inj hp
    exact ⟨c, hc, hcontrol⟩
  · rintro ⟨c, hc, hcontrol⟩
    exact ⟨.point c.toNat, List.mem_map_of_mem hc, c.toNat, rfl, hcontrol⟩

/-- The strict measure of a text is the lenient one of its part before the first NUL, if that part has
no control. -/
theorem total_ofText (t : List Char) :
    Sequence.total m (Symbol.ofText t) =
      if (beforeNul t).any fun c => IsControl c.toNat then none
      else some (textWidth m (beforeNul t)) := by
  have hsum := Sequence.isSum_total (m := m) (Symbol.ofText t)
  rw [measured_ofText] at hsum
  by_cases hcontrol : ((beforeNul t).any fun c => IsControl c.toNat) = true
  · rw [if_pos hcontrol, hsum.eq_none (hasControl_ofText.mpr hcontrol)]
  · rw [if_neg hcontrol, hsum.eq_some (mt hasControl_ofText.mp hcontrol), Sequence.cells_ofText]

/-- A limit takes characters away from the text. -/
theorem within_ofText (t : List Char) (n : Int) :
    Sequence.within (Symbol.ofText t) (some n) = Symbol.ofText (t.take n.toNat) :=
  List.map_take.symm

/-! ## What fills no cell -/

/-- A control fills no cell, since it has no width. -/
theorem cells_of_isControl {c : Int} (h : IsControl c) : cells m c = 0 := by
  rw [cells, width_eq_none_iff.mpr h]
  rfl

theorem cells_nul : cells m 0 = 0 := by
  cases m with
  | standard => rfl
  | legacy => rfl

/-- **Without NULs and controls a text fills what it filled.** -/
theorem textWidth_withoutControls (t : List Char) :
    textWidth m (withoutControls t) = textWidth m t := by
  refine textWidth_filter fun c _ hc => ?_
  have hc : c = '\x00' ∨ IsControl c.toNat := by
    by_cases hnul : c = '\x00'
    · exact .inl hnul
    · simpa [hnul] using hc
  rcases hc with rfl | hcontrol
  · exact cells_nul
  · exact cells_of_isControl hcontrol

theorem mem_withoutControls {c : Char} (h : c ∈ withoutControls t) :
    c ≠ '\x00' ∧ ¬IsControl c.toNat :=
  of_decide_eq_true (List.mem_filter.mp h).2

/-- Nothing is left in it to stop at. -/
theorem beforeNul_withoutControls (t : List Char) :
    beforeNul (withoutControls t) = withoutControls t :=
  List.takeWhile_eq_self_iff.mpr fun _ hc => decide_eq_true (mem_withoutControls hc).1

/-! ## The two measures -/

/-- **The strict measure and the lenient one agree.** As a sequence a text has the width of what comes
before its first NUL, and none if a control is there. The other way round, the width of a text is that
of the sequence without NULs and controls. So within any limit a text as a sequence is no wider than the
text. -/
theorem width_of_text (m : Mode) (t : List Char) :
    Sequence.width m (Symbol.ofText t) none =
        .ok (if (beforeNul t).any fun c => IsControl c.toNat then none
          else some (textWidth m (beforeNul t))) ∧
      Sequence.width m (Symbol.ofText (withoutControls t)) none = .ok (some (textWidth m t)) ∧
      ∀ n : Int, 0 ≤ n → n ≤ Sequence.maxLimit →
        ∃ r, Sequence.width m (Symbol.ofText t) (some n) = .ok r ∧ ∀ k ∈ r, k ≤ textWidth m t := by
  refine ⟨?_, ?_, ?_⟩
  · rw [Sequence.width_of_not_isRefused Sequence.not_isRefused_none]
    exact congrArg Except.ok (total_ofText t)
  · -- Without NULs all of it is before the first NUL.
    have hcontrol : ¬((withoutControls t).any fun c => IsControl c.toNat) = true := by
      simp only [List.any_eq_true, decide_eq_true_eq]
      rintro ⟨c, hc, hcontrol⟩
      exact (mem_withoutControls hc).2 hcontrol
    rw [Sequence.width_of_not_isRefused Sequence.not_isRefused_none, Sequence.within, total_ofText,
      beforeNul_withoutControls, if_neg hcontrol, textWidth_withoutControls]
  · intro n hn hmax
    have hlimit : ¬Sequence.IsRefused (some n) := by
      rw [Sequence.isRefused_some_iff]
      omega
    refine ⟨_, Sequence.width_of_not_isRefused hlimit, fun k hk => ?_⟩
    rw [within_ofText, total_ofText] at hk
    split at hk
    · cases hk
    · obtain rfl := Option.some.inj hk
      exact Nat.le_trans (textWidth_beforeNul_le _) (textWidth_take_le n.toNat t)

/-- A letter of two cells stands before a control, and one of a single cell behind a NUL. Within the
limit there is the first letter alone. -/
theorem width_of_text_within_one :
    (0 : Int) ≤ 1 ∧ 1 ≤ Sequence.maxLimit ∧
      textWidth .legacy ['é', '\x07', '\x00', 'b'] = 3 ∧
      Sequence.width .legacy (Symbol.ofText ['é', '\x07', '\x00', 'b']) none = .ok none ∧
      Sequence.width .legacy (Symbol.ofText ['é', 'b']) none = .ok (some 3) ∧
      Sequence.width .legacy (Symbol.ofText ['é', '\x07', '\x00', 'b']) (some 1) = .ok (some 2) ∧
      2 ≤ textWidth .legacy ['é', '\x07', '\x00', 'b'] := by
  have hle : (0 : Int) ≤ 1 := by decide
  have hmax : (1 : Int) ≤ Sequence.maxLimit := by decide
  obtain ⟨hstrict, hlenient, hlimit⟩ := width_of_text .legacy ['é', '\x07', '\x00', 'b']
  obtain ⟨r, hr, hrle⟩ := hlimit 1 hle hmax
  obtain rfl : some 2 = r := Except.ok.inj hr
  exact ⟨hle, hmax, rfl, hstrict, hlenient, hr, hrle 2 rfl⟩

end CellWidth
