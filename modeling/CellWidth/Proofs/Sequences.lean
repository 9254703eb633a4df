import CellWidth.Proofs.Beginning
import CellWidth.Proofs.Classes
import CellWidth.Width.Sequence

/-!
# What is measured of a sequence

`Sequence.total` has three ways to end: the elements run out, one of them is a terminator, or one of them
is a control. The limit is a fourth, and it has gone before: it takes elements away and no more.

So what is measured is the longest beginning, of the elements within the limit, that has no terminator.
Beyond it nothing matters, not even a control; within it a control matters wherever it stands.

* `Sequence.isSum_total` — the walk adds up what comes before the first terminator
* `Sequence.width_of_limit` — the same of a sequence with a limit
-/

namespace CellWidth

namespace Symbol

/-- The elements that end a sequence: code point zero, a text that begins with it, and a text without
characters. -/
def Ends (s : Symbol) : Prop :=
  s = .point 0 ∨ s = .text [] ∨ ∃ rest, s = .text ('\x00' :: rest)

/-- These are the elements at which the walk stops. -/
theorem isTerminator_iff : ∀ {s : Symbol}, s.isTerminator = true ↔ s.Ends
  | .point c => by simp [isTerminator, point?, Ends]
  | .text [] => by simp [isTerminator, point?, Ends]
  | .text (c :: rest) => by
    have hnul : c.toNat = 0 ↔ c = '\x00' := Char.toNat_inj (d := '\x00')
    simp [isTerminator, point?, Ends, hnul]

/-- The cells that an element fills; a control fills none. -/
def cells (m : Mode) (s : Symbol) : Nat :=
  (s.width m).getD 0

/-- An element has no width where it names a control, whatever the mode. -/
theorem width_eq_none_iff {m : Mode} {s : Symbol} :
    s.width m = none ↔ ∃ c ∈ s.point?, IsControl c := by
  unfold width
  cases s.point? with
  | none => simp
  | some c => simp [CellWidth.width_eq_none_iff]

end Symbol

namespace Sequence

variable {m : Mode} {x : Symbol} {s : List Symbol}

/-! ## Adding up -/

/-- The cells of all elements together. -/
def cells (m : Mode) : List Symbol → Nat
  | [] => 0
  | x :: s => x.cells m + cells m s

/-- The cells of a sequence are those of its parts together. -/
theorem cells_append : ∀ p q : List Symbol, cells m (p ++ q) = cells m p + cells m q
  | [], q => by simp [cells]
  | x :: p, q => by rw [List.cons_append, cells, cells_append p q, cells, Nat.add_assoc]

/-- As elements the characters of a text fill what the text fills. -/
theorem cells_ofText : ∀ t : List Char, cells m (Symbol.ofText t) = textWidth m t
  | [] => rfl
  | c :: t => congrArg (CellWidth.cells m c.toNat + ·) (cells_ofText t)

/-- `r` is the width of the elements of `p` together: none if one of them has none, and else the sum of
their cells. -/
structure IsSum (m : Mode) (p : List Symbol) (r : Option Nat) : Prop where
  none_iff : r = none ↔ ∃ x ∈ p, x.width m = none
  eq_cells : ∀ n ∈ r, n = cells m p

theorem IsSum.nil : IsSum m [] (some 0) where
  none_iff := by simp
  eq_cells := by simp [cells]

/-- With a control in front there is no sum. -/
theorem IsSum.cons_control (h : x.width m = none) : IsSum m (x :: s) none where
  none_iff := by simp [h]
  eq_cells := by simp

/-- Any other element adds its own cells. -/
theorem IsSum.cons {n : Nat} {r : Option Nat} (h : x.width m = some n) (hr : IsSum m s r) :
    IsSum m (x :: s) (r.map (n + ·)) where
  none_iff := by simp [h, hr.none_iff]
  eq_cells := by
    intro k hk
    obtain ⟨j, hj, rfl⟩ := Option.map_eq_some_iff.mp hk
    rw [cells, Symbol.cells, h, hr.eq_cells j hj]
    rfl

/-- One of the elements names a control. -/
def HasControl (s : List Symbol) : Prop :=
  ∃ x ∈ s, ∃ c ∈ x.point?, IsControl c

/-- There is no sum where a control is, and only there; so the mode has no part in it. -/
theorem IsSum.none_iff_hasControl {p : List Symbol} {r : Option Nat} (h : IsSum m p r) :
    r = none ↔ HasControl p := by
  simp only [h.none_iff, Symbol.width_eq_none_iff, HasControl]

theorem IsSum.eq_none {p : List Symbol} {r : Option Nat} (h : IsSum m p r)
    (hcontrol : HasControl p) : r = none :=
  h.none_iff_hasControl.mpr hcontrol

theorem IsSum.eq_some {p : List Symbol} {r : Option Nat} (h : IsSum m p r)
    (hcontrol : ¬HasControl p) : r = some (cells m p) := by
  cases r with
  | none => exact absurd (h.none_iff_hasControl.mp rfl) hcontrol
  | some n => rw [h.eq_cells n rfl]

/-- There is one sum at most. -/
theorem IsSum.unique {p : List Symbol} {r r' : Option Nat} (h : IsSum m p r) (h' : IsSum m p r') :
    r = r' := by
  by_cases hcontrol : HasControl p
  · rw [h.eq_none hcontrol, h'.eq_none hcontrol]
  · rw [h.eq_some hcontrol, h'.eq_some hcontrol]

/-! ## The walk -/

/-- The elements before the first terminator. -/
def measured (s : List Symbol) : List Symbol :=
  s.takeWhile fun x => !x.isTerminator

/-- They are the longest beginning without a terminator. -/
theorem longestBeginning_measured (s : List Symbol) :
    LongestBeginning (fun q => ∀ x ∈ q, ¬x.Ends) s (measured s) := by
  have h := longestBeginning_takeWhile (fun x : Symbol => !x.isTerminator) s
  simpa only [measured, Bool.not_eq_true', ← Bool.not_eq_true, Symbol.isTerminator_iff] using h

/-- **The walk adds up the elements before the first terminator.** -/
theorem isSum_total : ∀ s : List Symbol, IsSum m (measured s) (total m s)
  | [] => .nil
  | x :: s => by
    rw [total, measured]
    -- Both look for the terminator first, and only then at the width.
    by_cases hend : x.isTerminator = true
    · rw [if_pos hend, List.takeWhile_cons_of_neg (by simp [hend])]
      exact .nil
    · rw [if_neg hend, List.takeWhile_cons_of_pos (by simp [hend])]
      cases hx : x.width m with
      | none => exact .cons_control hx
      | some n => exact .cons hx (isSum_total s)

/-! ## The limit -/

/-- A limit that is refused: one below zero or beyond what can be counted to. -/
def IsRefused (limit : Option Int) : Prop :=
  ∃ n ∈ limit, n < 0 ∨ maxLimit < n

theorem not_isRefused_none : ¬IsRefused none := by
  simp [IsRefused]

theorem isRefused_some_iff {n : Int} : IsRefused (some n) ↔ n < 0 ∨ maxLimit < n := by
  simp [IsRefused]

/-- The elements within a limit; all of them where there is none. -/
def within (s : List Symbol) : Option Int → List Symbol
  | none => s
  | some n => s.take n.toNat

/-- A refused limit is refused before any element is looked at. -/
theorem limited_of_isRefused {limit : Option Int} (h : IsRefused limit) :
    ∃ e, ∀ s, limited s limit = .error e := by
  obtain ⟨n, rfl, hn⟩ := h
  by_cases hneg : n < 0
  · exact ⟨.negative n, fun s => by rw [limited, if_pos hneg]⟩
  · exact ⟨.tooLarge, fun s => by rw [limited, if_neg hneg, if_pos (by omega)]⟩

/-- Any other limit takes elements away and does no more. -/
theorem limited_of_not_isRefused : ∀ {limit : Option Int}, ¬IsRefused limit →
    limited s limit = .ok (within s limit)
  | none, _ => rfl
  | some n, h => by
    have hn : ¬(n < 0 ∨ maxLimit < n) := fun hn => h ⟨n, rfl, hn⟩
    rw [limited, if_neg (by omega), if_neg (by omega), within]

theorem width_of_isRefused {limit : Option Int} (h : IsRefused limit) :
    ∃ e, ∀ m s, width m s limit = .error e := by
  obtain ⟨e, he⟩ := limited_of_isRefused h
  exact ⟨e, fun m s => by rw [width, he]; rfl⟩

theorem width_of_not_isRefused {limit : Option Int} (h : ¬IsRefused limit) :
    width m s limit = .ok (total m (within s limit)) := by
  rw [width, limited_of_not_isRefused h]
  rfl

/-- **The width of a sequence within a limit.** A limit below zero, or beyond what can be counted to, is
refused whatever the elements are. Otherwise the width is that of the longest beginning without a
terminator of the elements within the limit: none if there is a control in it, and else the sum of the
cells. -/
theorem width_of_limit (m : Mode) (limit : Option Int) :
    (IsRefused limit → ∃ e, ∀ s, width m s limit = .error e) ∧
    (¬IsRefused limit → ∀ s, ∃ p r, width m s limit = .ok r ∧
      LongestBeginning (fun q => ∀ x ∈ q, ¬x.Ends) (within s limit) p ∧
      (r = none ↔ ∃ x ∈ p, x.width m = none) ∧
      ∀ n ∈ r, n = cells m p) := by
  constructor
  · intro h
    obtain ⟨e, he⟩ := limited_of_isRefused h
    exact ⟨e, fun s => by rw [width, he]; rfl⟩
  · intro h s
    obtain ⟨hnone, hsum⟩ := isSum_total (m := m) (within s limit)
    refine ⟨measured (within s limit), total m (within s limit), ?_,
      longestBeginning_measured _, hnone, hsum⟩
    rw [width, limited_of_not_isRefused h]
    rfl

/-- An element of two cells and one of a single cell come before a text without characters. The control
behind it is within the limit, and is not measured. -/
theorem width_past_terminator :
    IsRefused (some (-1)) ∧ (∃ e, ∀ s, width .legacy s (some (-1)) = .error e) ∧
      ¬IsRefused (some 4) ∧
      ∃ p, width .legacy [.point 0xE9, .text ['x', 'y'], .text [], .point 7] (some 4) = .ok (some 3) ∧
        LongestBeginning (fun q => ∀ x ∈ q, ¬x.Ends)
          (within [.point 0xE9, .text ['x', 'y'], .text [], .point 7] (some 4)) p ∧
        (¬∃ x ∈ p, x.width .legacy = none) ∧ 3 = cells .legacy p := by
  have hnegative : IsRefused (some (-1)) := ⟨-1, rfl, by decide⟩
  have hfour : ¬IsRefused (some 4) := by
    rintro ⟨n, hn, h⟩
    obtain rfl := Option.some.inj hn
    revert h
    decide
  obtain ⟨p, r, hwidth, hlongest, hnone, hsum⟩ := (width_of_limit .legacy (some 4)).2 hfour
    [.point 0xE9, .text ['x', 'y'], .text [], .point 7]
  obtain rfl : some 3 = r := Except.ok.inj hwidth
  refine ⟨hnegative, (width_of_limit .legacy (some (-1))).1 hnegative, hfour, p, hwidth, hlongest,
    ?_, hsum 3 rfl⟩
  exact fun hcontrol => absurd (hnone.mpr hcontrol) (by simp)

end Sequence

end CellWidth
