import CellWidth.Proofs.Sequences
import Mathlib.Data.List.TakeWhile

/-!
# A sequence in two pieces

A sequence can be measured piece by piece, but its width is not simply a sum. A control in the first
piece, or a terminator, ends the measuring there, and then the second piece does not count, whatever is
in it. Otherwise the widths are added; the limit that is left for the second piece is what the elements
of the first have not used up.

* `Sequence.total_append`, `Sequence.total_append_of_ends` — the walk over two pieces
* `Sequence.within_append` — what a limit leaves of two pieces
* `Sequence.width_in_pieces` — both together
-/

namespace CellWidth

namespace Sequence

variable {m : Mode} {a b : List Symbol} {limit : Option Int}

/-! ## The walk -/

/-- The widths of two pieces are added, and there is none where one of them has none. -/
theorem IsSum.append {i j : Option Nat} (ha : IsSum m a i) (hb : IsSum m b j) :
    IsSum m (a ++ b) (i.bind fun n => j.map (n + ·)) where
  none_iff := by
    have hnone : (i.bind fun n => j.map (n + ·)) = none ↔ i = none ∨ j = none := by
      cases i <;> cases j <;> simp
    rw [hnone, ha.none_iff, hb.none_iff]
    simp only [List.mem_append, or_and_right, exists_or]
  eq_cells := by
    intro k hk
    obtain ⟨n, hn, hk⟩ := Option.bind_eq_some_iff.mp hk
    obtain ⟨n', hn', rfl⟩ := Option.map_eq_some_iff.mp hk
    rw [cells_append, ha.eq_cells n hn, hb.eq_cells n' hn']

theorem not_isTerminator_of_not_ends (h : ∀ x ∈ a, ¬x.Ends) : ∀ x ∈ a, (!x.isTerminator) = true := by
  simpa [← Symbol.isTerminator_iff] using h

/-- Without a terminator all is measured. -/
theorem measured_of_not_ends (h : ∀ x ∈ a, ¬x.Ends) : measured a = a :=
  List.takeWhile_eq_self_iff.mpr (not_isTerminator_of_not_ends h)

/-- The measuring then goes on to the second piece. -/
theorem measured_append (h : ∀ x ∈ a, ¬x.Ends) (b : List Symbol) :
    measured (a ++ b) = a ++ measured b :=
  List.takeWhile_append_of_pos (not_isTerminator_of_not_ends h)

/-- With a terminator it does not come so far. -/
theorem measured_append_of_ends : ∀ {a : List Symbol}, (∃ x ∈ a, x.Ends) → ∀ b : List Symbol,
    measured (a ++ b) = measured a
  | x :: a, h, b => by
    rw [List.cons_append, measured, measured]
    by_cases hx : x.isTerminator = true
    · rw [List.takeWhile_cons_of_neg (by simp [hx]), List.takeWhile_cons_of_neg (by simp [hx])]
    · -- The terminator is further on.
      obtain ⟨y, hy, hends⟩ := h
      have hya : y ∈ a := by
        rcases List.mem_cons.mp hy with rfl | hya
        · exact absurd (Symbol.isTerminator_iff.mpr hends) hx
        · exact hya
      rw [List.takeWhile_cons_of_pos (by simp [hx]), List.takeWhile_cons_of_pos (by simp [hx])]
      exact congrArg (x :: ·) (measured_append_of_ends ⟨y, hya, hends⟩ b)

/-- Behind a terminator nothing is measured. -/
theorem total_append_of_ends (h : ∃ x ∈ a, x.Ends) (b : List Symbol) :
    total m (a ++ b) = total m a := by
  have hsum := isSum_total (m := m) (a ++ b)
  rw [measured_append_of_ends h] at hsum
  exact hsum.unique (isSum_total a)

/-- Without a terminator the walk goes on to the second piece. -/
theorem total_append (h : ∀ x ∈ a, ¬x.Ends) (b : List Symbol) :
    total m (a ++ b) = (total m a).bind fun n => (total m b).map (n + ·) := by
  have ha := isSum_total (m := m) a
  have hsum := isSum_total (m := m) (a ++ b)
  rw [measured_of_not_ends h] at ha
  rw [measured_append h] at hsum
  exact hsum.unique (ha.append (isSum_total b))

/-- Behind a control nothing matters, be there a terminator or not. -/
theorem total_append_of_eq_none (h : total m a = none) (b : List Symbol) :
    total m (a ++ b) = none := by
  by_cases hends : ∃ x ∈ a, x.Ends
  · rw [total_append_of_ends hends, h]
  · have hgoes : ∀ x ∈ a, ¬x.Ends := fun x hx hend => hends ⟨x, hx, hend⟩
    rw [total_append hgoes, h]
    rfl

/-! ## The limit -/

/-- What elements leave of a limit. -/
def leftOver (limit : Option Int) (a : List Symbol) : Option Int :=
  limit.map fun n => max 0 (n - a.length)

/-- A limit takes from the second piece what the first has not used up. -/
theorem within_append : ∀ (limit : Option Int) (a b : List Symbol),
    within (a ++ b) limit = within a limit ++ within b (leftOver limit a)
  | none, _, _ => rfl
  | some n, a, b => by
    have hleft : (max 0 (n - a.length)).toNat = n.toNat - a.length := by omega
    simp only [within, leftOver, Option.map_some, List.take_append, hleft]

/-- What is left of a limit is not refused, if the limit is not. -/
theorem not_isRefused_leftOver : ∀ {limit : Option Int}, ¬IsRefused limit → ∀ a : List Symbol,
    ¬IsRefused (leftOver limit a)
  | none, h, _ => h
  | some n, h, a => by
    rw [isRefused_some_iff] at h
    rw [leftOver, Option.map_some, isRefused_some_iff]
    omega

/-! ## Both together -/

/-- The measuring comes to its end within a piece: there is a control in what is measured of it, or a
terminator among the elements within the limit. -/
def Stops (m : Mode) (limit : Option Int) (a : List Symbol) : Prop :=
  width m a limit = .ok none ∨ ∃ x ∈ within a limit, x.Ends

/-- The width of a whole from those of its two pieces. Where the measuring comes to its end within the
first, it is that of the first. Where it does not, the first has a width, and that of the second, within
what is left of the limit, is added; if the second has none, the whole has none. -/
structure InPieces (m : Mode) (limit : Option Int) (whole a b : List Symbol) : Prop where
  stops : Stops m limit a → width m whole limit = width m a limit
  goesOn : ¬Stops m limit a → ∃ n r, width m a limit = .ok (some n) ∧
    width m b (leftOver limit a) = .ok r ∧ width m whole limit = .ok (r.map (n + ·))

theorem inPieces_append (h : ¬IsRefused limit) (a b : List Symbol) :
    InPieces m limit (a ++ b) a b := by
  have hleft := not_isRefused_leftOver h a
  constructor
  · intro hstops
    rw [width_of_not_isRefused h, width_of_not_isRefused h, within_append]
    rcases hstops with hnone | hends
    · rw [width_of_not_isRefused h] at hnone
      have hnone := Except.ok.inj hnone
      rw [total_append_of_eq_none hnone, hnone]
    · rw [total_append_of_ends hends]
  · intro hgoes
    obtain ⟨hwidth, hends⟩ := not_or.mp hgoes
    have hends : ∀ x ∈ within a limit, ¬x.Ends := fun x hx hend => hends ⟨x, hx, hend⟩
    rw [width_of_not_isRefused h] at hwidth
    -- The first piece has a width, as it has no control.
    obtain ⟨n, hn⟩ := Option.ne_none_iff_exists'.mp fun hnone => hwidth (congrArg Except.ok hnone)
    refine ⟨n, _, ?_, width_of_not_isRefused hleft, ?_⟩
    · rw [width_of_not_isRefused h, hn]
    · rw [width_of_not_isRefused h, within_append, total_append hends, hn]
      rfl

/-- **A sequence can be measured piece by piece.** Within every limit that is not refused, the width of
two pieces, one after the other, is known from the pieces; so it is where the pieces are texts. -/
theorem width_in_pieces (m : Mode) (h : ¬IsRefused limit) :
    (∀ a b : List Symbol, InPieces m limit (a ++ b) a b) ∧
      ∀ s t : List Char,
        InPieces m limit (Symbol.ofText (s ++ t)) (Symbol.ofText s) (Symbol.ofText t) := by
  refine ⟨inPieces_append h, fun s t => ?_⟩
  rw [Symbol.ofText, List.map_append]
  exact inPieces_append h (Symbol.ofText s) (Symbol.ofText t)

/-- The first piece uses up one element of a limit of three, and what is left ends before the control of
the second. A text with a NUL is not measured beyond it. -/
theorem width_in_pieces_within_three :
    ¬IsRefused (some 3) ∧ ¬Stops .legacy (some 3) [.point 0xE9] ∧
      width .legacy [.point 0xE9] (some 3) = .ok (some 2) ∧
      leftOver (some 3) [.point 0xE9] = some 2 ∧
      width .legacy [.text ['x', 'y'], .point 0x41, .point 7] (some 2) = .ok (some 2) ∧
      width .legacy ([.point 0xE9] ++ [.text ['x', 'y'], .point 0x41, .point 7]) (some 3) =
        .ok (some 4) ∧
      Stops .legacy (some 3) (Symbol.ofText ['a', '\x00']) ∧
      width .legacy (Symbol.ofText (['a', '\x00'] ++ ['\x07'])) (some 3) =
        width .legacy (Symbol.ofText ['a', '\x00']) (some 3) := by
  have hthree : ¬IsRefused (some 3) := by
    rw [isRefused_some_iff]
    decide
  have hgoes : ¬Stops .legacy (some 3) [.point 0xE9] := by
    rintro (hnone | ⟨x, hx, hends⟩)
    · cases (Except.ok.inj hnone : some 2 = none)
    · obtain rfl := List.mem_singleton.mp hx
      exact absurd (Symbol.isTerminator_iff.mpr hends) (by decide)
  have hstops : Stops .legacy (some 3) (Symbol.ofText ['a', '\x00']) :=
    .inr ⟨.point 0, by decide, .inl rfl⟩
  obtain ⟨hsequences, htexts⟩ := width_in_pieces .legacy hthree
  obtain ⟨n, r, hn, hr, hwhole⟩ :=
    (hsequences [.point 0xE9] [.text ['x', 'y'], .point 0x41, .point 7]).goesOn hgoes
  obtain rfl : 2 = n := Option.some.inj (Except.ok.inj hn)
  obtain rfl : some 2 = r := Except.ok.inj hr
  exact ⟨hthree, hgoes, hn, rfl, hr, hwhole, hstops, (htexts ['a', '\x00'] ['\x07']).stops hstops⟩

end Sequence

end CellWidth
