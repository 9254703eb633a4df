import CellWidth.Proofs.Sequences

/-!
# What the legacy mode widens

The legacy mode has no rules of its own. It takes the width of the standard mode, and makes two cells
of one where the code point is in its range. A control stays a control, what has no cell gets none, and
what has two cells has no more. So the two modes stop at the same place and fail at the same place, and
their widths differ by the number of elements that were widened on the way.

* `widensBy_cells` — a code point, and what the mode adds to it
* `Sequence.total_modes` — the two walks over a sequence, side by side
* `legacy_widens` — sequences with a limit, and texts
-/

namespace CellWidth

/-! ## One code point -/

/-- A code point of one cell in the standard mode that has two in the legacy mode. -/
def IsWidened (c : Int) : Prop :=
  width .standard c = some 1 ∧ Widens c

instance (c : Int) : Decidable (IsWidened c) :=
  inferInstanceAs (Decidable (width .standard c = some 1 ∧ Widens c))

/-- The legacy mode is the standard one but for the code points that it widens. -/
theorem width_legacy (c : Int) :
    width .legacy c = if IsWidened c then some 2 else width .standard c := rfl

/-- `b` cells are `n` more than `a` cells, and twice as many at most. -/
structure WidensBy (n a b : Nat) : Prop where
  eq_add : b = a + n
  le : a ≤ b
  le_double : b ≤ 2 * a

theorem WidensBy.zero : WidensBy 0 0 0 := ⟨rfl, Nat.le_refl 0, Nat.le_refl 0⟩

/-- What is added in the parts is added in all. -/
theorem WidensBy.add {n a b n' a' b' : Nat} (h : WidensBy n a b) (h' : WidensBy n' a' b') :
    WidensBy (n + n') (a + a') (b + b') := by
  obtain ⟨hb, hle, hdouble⟩ := h
  obtain ⟨hb', hle', hdouble'⟩ := h'
  exact ⟨by omega, by omega, by omega⟩

/-- Where there is a cell in one mode there is one in the other. -/
theorem WidensBy.pos_iff {n a b : Nat} (h : WidensBy n a b) : 0 < a ↔ 0 < b := by
  obtain ⟨-, hle, hdouble⟩ := h
  omega

/-- The legacy mode adds a cell to a code point that it widens, and to no other. -/
theorem widensBy_cells (c : Int) :
    WidensBy (if IsWidened c then 1 else 0) (cells .standard c) (cells .legacy c) := by
  unfold cells
  rw [width_legacy]
  by_cases h : IsWidened c
  · rw [if_pos h, if_pos h, h.1]
    exact ⟨rfl, by decide, by decide⟩
  · rw [if_neg h, if_neg h]
    exact ⟨rfl, Nat.le_refl _, by omega⟩

/-! ## One element -/

namespace Symbol

/-- An element that names a code point which the legacy mode widens. -/
def IsWidened (x : Symbol) : Prop :=
  ∃ c ∈ x.point?, CellWidth.IsWidened c

instance (x : Symbol) : Decidable x.IsWidened :=
  inferInstanceAs (Decidable (∃ c ∈ x.point?, CellWidth.IsWidened c))

/-- An element without a code point has no cell in either mode, and any other has those of its code
point. -/
theorem widensBy_cells (x : Symbol) :
    WidensBy (if x.IsWidened then 1 else 0) (x.cells .standard) (x.cells .legacy) := by
  cases hx : x.point? with
  | none =>
    have hw : ¬x.IsWidened := by simp [IsWidened, hx]
    rw [if_neg hw]
    simp only [cells, width, hx]
    exact .zero
  | some c =>
    have hw : x.IsWidened ↔ CellWidth.IsWidened c := by simp [IsWidened, hx]
    simp only [cells, width, hx, hw]
    exact CellWidth.widensBy_cells c

end Symbol

/-! ## Sequences -/

namespace Sequence

/-- The number of elements that the legacy mode widens. -/
def widened (s : List Symbol) : Nat :=
  s.countP fun x => x.IsWidened

theorem widened_cons (x : Symbol) (s : List Symbol) :
    widened (x :: s) = (if x.IsWidened then 1 else 0) + widened s := by
  simp [widened, List.countP_cons, Nat.add_comm]

/-- Over a sequence the difference is the number of elements that are widened. -/
theorem widensBy_cells : ∀ s : List Symbol,
    WidensBy (widened s) (cells .standard s) (cells .legacy s)
  | [] => .zero
  | x :: s => by
    rw [widened_cons]
    exact (Symbol.widensBy_cells x).add (widensBy_cells s)

/-- **The two walks, side by side.** Both fail at the same control, or both come to the end, where the
difference is the number of elements widened. -/
theorem total_modes (s : List Symbol) :
    (HasControl (measured s) ∧ total .standard s = none ∧ total .legacy s = none) ∨
      ∃ a b, total .standard s = some a ∧ total .legacy s = some b ∧
        WidensBy (widened (measured s)) a b := by
  have hstandard := isSum_total (m := .standard) s
  have hlegacy := isSum_total (m := .legacy) s
  by_cases hcontrol : HasControl (measured s)
  · exact .inl ⟨hcontrol, hstandard.eq_none hcontrol, hlegacy.eq_none hcontrol⟩
  · exact .inr ⟨_, _, hstandard.eq_some hcontrol, hlegacy.eq_some hcontrol,
      widensBy_cells (measured s)⟩

end Sequence

/-! ## Texts -/

/-- A text is measured like the sequence of its characters. -/
theorem widensBy_textWidth (t : List Char) :
    WidensBy (t.countP fun c => IsWidened c.toNat) (textWidth .standard t) (textWidth .legacy t) := by
  have h := Sequence.widensBy_cells (Symbol.ofText t)
  rw [Sequence.cells_ofText, Sequence.cells_ofText, Sequence.widened, Symbol.ofText,
    List.countP_map] at h
  simpa [Function.comp_def, Symbol.IsWidened, Symbol.point?] using h

/-- **The legacy mode only widens, and by a known amount.** For all elements and every limit there are
three cases. A limit that is refused is refused for the same reason in both modes. Where a control is
measured there is no width in either. Otherwise there is one in both, and the legacy mode has a cell
more for each element that it widens among those before the first terminator, and twice as many cells
at most. So it is for the characters of every text. -/
theorem legacy_widens :
    (∀ (s : List Symbol) (limit : Option Int),
      (Sequence.IsRefused limit ∧ ∃ e, Sequence.width .standard s limit = .error e ∧
        Sequence.width .legacy s limit = .error e) ∨
      (Sequence.HasControl (Sequence.measured (Sequence.within s limit)) ∧
        Sequence.width .standard s limit = .ok none ∧ Sequence.width .legacy s limit = .ok none) ∨
      ∃ a b, Sequence.width .standard s limit = .ok (some a) ∧
        Sequence.width .legacy s limit = .ok (some b) ∧
        WidensBy (Sequence.widened (Sequence.measured (Sequence.within s limit))) a b) ∧
    ∀ t : List Char,
      WidensBy (t.countP fun c => IsWidened c.toNat) (textWidth .standard t) (textWidth .legacy t) := by
  refine ⟨fun s limit => ?_, widensBy_textWidth⟩
  by_cases hrefused : Sequence.IsRefused limit
  · obtain ⟨e, he⟩ := Sequence.width_of_isRefused hrefused
    exact .inl ⟨hrefused, e, he .standard s, he .legacy s⟩
  · rw [Sequence.width_of_not_isRefused hrefused, Sequence.width_of_not_isRefused hrefused]
    obtain ⟨hcontrol, hstandard, hlegacy⟩ | ⟨a, b, hstandard, hlegacy, hwidens⟩ :=
      Sequence.total_modes (Sequence.within s limit)
    · rw [hstandard, hlegacy]
      exact .inr (.inl ⟨hcontrol, rfl, rfl⟩)
    · rw [hstandard, hlegacy]
      exact .inr (.inr ⟨a, b, rfl, rfl, hwidens⟩)

end CellWidth
