import CellWidth.Proofs.Beginning
import CellWidth.Proofs.Truncation

/-!
# Where a text is cut

Where a text is too wide and its ellipsis is not, `Layout.truncate` keeps the longest beginning of the
text that leaves room for the ellipsis. The walk that finds it, `Layout.fitting`, goes greedily from
character to character and never turns back. It loses nothing: a beginning that fits consists of
characters that fit one after the other.

The walk cannot end at a character without a cell, as such a character always fits. So the first
character that is lost has a cell or two, and no more than one cell stays free.

The same walk with more room keeps no less. So the outcome gets no narrower where the width it is made
for grows, whichever of the three outcomes the two widths lead to.

* `Layout.longestBeginning_fitting` — what stays is the longest beginning that fits
* `Layout.fitting_append_cut` — of a text that is too wide something is lost, and for want of room
* `Layout.fitting_begins_fitting` — with more room, what stays begins alike and goes on
-/

namespace CellWidth.Layout

variable {m : Mode}

/-! ## The walk -/

theorem fitting_begins : ∀ (t : List Char) (room : Nat), fitting m room t <+: t
  | [], _ => List.prefix_refl []
  | c :: t, room => by
    rw [fitting]
    split
    · exact List.cons_prefix_cons.mpr ⟨rfl, fitting_begins t _⟩
    · exact List.nil_prefix

/-- Every beginning that fits begins what the walk keeps. -/
theorem begins_fitting : ∀ {q t : List Char} {room : Nat}, q <+: t → textWidth m q ≤ room →
    q <+: fitting m room t
  | [], _, _, _, _ => List.nil_prefix
  | c :: q, [], _, hq, _ => absurd (List.prefix_nil.mp hq) (List.cons_ne_nil c q)
  | c :: q, d :: t, room, hq, hfit => by
    obtain ⟨rfl, hrest⟩ := List.cons_prefix_cons.mp hq
    rw [textWidth_cons] at hfit
    have hc : cells m c.toNat ≤ room := by omega
    have hroom : textWidth m q ≤ room - cells m c.toNat := by omega
    rw [fitting, if_pos hc, List.cons_prefix_cons]
    exact ⟨rfl, begins_fitting hrest hroom⟩

/-- **What stays of a text is its longest beginning that fits.** -/
theorem longestBeginning_fitting (t : List Char) (room : Nat) :
    LongestBeginning (fun q => textWidth m q ≤ room) t (fitting m room t) :=
  .of_begins (fitting_begins t room) (textWidth_fitting_le t room) fun _ => begins_fitting

/-- **More room keeps no less.** -/
theorem fitting_begins_fitting {less more : Nat} (h : less ≤ more) (t : List Char) :
    fitting m less t <+: fitting m more t :=
  begins_fitting (fitting_begins t less) (Nat.le_trans (textWidth_fitting_le t less) h)

/-- **A text that is too wide is cut at a character that does not fit.** -/
theorem fitting_append_cut : ∀ {t : List Char} {room : Nat}, room < textWidth m t →
    ∃ c rest, t = fitting m room t ++ c :: rest ∧
      room < textWidth m (fitting m room t) + cells m c.toNat
  | [], room, h => absurd h (Nat.not_lt_zero room)
  | c :: t, room, h => by
    rw [fitting]
    by_cases hc : cells m c.toNat ≤ room
    · have hwide : room - cells m c.toNat < textWidth m t := by
        rw [textWidth_cons] at h
        omega
      obtain ⟨d, rest, ht, hd⟩ := fitting_append_cut hwide
      refine ⟨d, rest, ?_, ?_⟩
      · rw [if_pos hc, List.cons_append, ← ht]
      · rw [if_pos hc, textWidth_cons]
        omega
    · rw [if_neg hc]
      exact ⟨c, t, rfl, by rw [textWidth_nil]; omega⟩

/-! ## The cut -/

variable {t e : List Char} {w : Int}

/-- **A text is cut as late as there is room for the ellipsis.** What stays is the longest beginning of
the text that leaves room for it, and something is lost. The first character lost has a cell, so the
characters without one stay with what comes before them; and the width is used up to the last cell,
unless that character is wide, when one cell may stay free. -/
theorem truncate_longest (he : (textWidth m e : Int) < w) (ht : w < textWidth m t) :
    ∃ p c rest, truncate m t w e = p ++ e ∧ t = p ++ c :: rest ∧
      LongestBeginning (fun q => (textWidth m q : Int) ≤ w - textWidth m e) t p ∧
      0 < cells m c.toNat ∧
      ((textWidth m (truncate m t w e) : Int) = w ∨
        (textWidth m (truncate m t w e) : Int) = w - 1 ∧ isWide m c.toNat = true) := by
  -- The room is a number of cells: what the ellipsis leaves of the width.
  obtain ⟨room, rfl⟩ : ∃ room : Nat, w = textWidth m e + room :=
    ⟨(w - textWidth m e).toNat, by omega⟩
  have hleft : (textWidth m e : Int) + room - textWidth m e = room := by omega
  have hresult : truncate m t (textWidth m e + room) e = fitting m room t ++ e := by
    rw [truncate_of_room ht he, hleft, Int.toNat_natCast]
  have hlongest := longestBeginning_fitting (m := m) t room
  have hfit := hlongest.has
  have hwide : room < textWidth m t := by omega
  obtain ⟨c, rest, hcut, hc⟩ := fitting_append_cut hwide
  refine ⟨fitting m room t, c, rest, hresult, hcut, ?_, by omega, ?_⟩
  · simpa only [hleft, Int.ofNat_le] using hlongest
  · rw [hresult, textWidth_append]
    by_cases hused : textWidth m (fitting m room t) = room
    · left
      omega
    · -- A cell is free and the next character does not fit, so it has two.
      have htwo := cells_le_two (m := m) c.toNat
      right
      exact ⟨by omega, isWide_of_one_lt_cells (by omega)⟩

/-- A control stays with the letter before it, and of the two cells that a letter takes in the legacy
mode there is room for one only. -/
theorem truncate_longest_gap :
    (textWidth .legacy ['.'] : Int) < 3 ∧ (3 : Int) < textWidth .legacy ['a', '\x07', 'é', 'é'] ∧
      ∃ p c rest, truncate .legacy ['a', '\x07', 'é', 'é'] 3 ['.'] = p ++ ['.'] ∧
        ['a', '\x07', 'é', 'é'] = p ++ c :: rest ∧
        LongestBeginning (fun q => (textWidth .legacy q : Int) ≤ 3 - textWidth .legacy ['.'])
          ['a', '\x07', 'é', 'é'] p ∧
        0 < cells .legacy c.toNat ∧
        (textWidth .legacy (truncate .legacy ['a', '\x07', 'é', 'é'] 3 ['.']) : Int) = 3 - 1 ∧
        isWide .legacy c.toNat = true := by
  have hroom : (textWidth .legacy ['.'] : Int) < 3 := by decide
  have hwide : (3 : Int) < textWidth .legacy ['a', '\x07', 'é', 'é'] := by decide
  obtain ⟨p, c, rest, hresult, hcut, hlongest, hcells, hfull | hgap⟩ := truncate_longest hroom hwide
  · exact absurd hfull (by decide)
  · exact ⟨hroom, hwide, p, c, rest, hresult, hcut, hlongest, hcells, hgap⟩

/-! ## More width -/

/-- Two widths that are both too small for the text: the outcome of the greater one is no narrower. Only
the smaller one can leave the ellipsis to be cut alone. -/
theorem textWidth_truncate_le_truncate {w v : Nat} (h : w ≤ v) (ht : v < textWidth m t) :
    textWidth m (truncate m t w e) ≤ textWidth m (truncate m t v e) := by
  have htv : (v : Int) < textWidth m t := Int.ofNat_lt.mpr ht
  have htw : (w : Int) < textWidth m t := Int.ofNat_lt.mpr (Nat.lt_of_le_of_lt h ht)
  by_cases hev : v ≤ textWidth m e
  · -- The ellipsis is cut both times, and to more characters the second time.
    rw [truncate_of_no_room htw (Int.ofNat_le.mpr (Nat.le_trans h hev)),
      truncate_of_no_room htv (Int.ofNat_le.mpr hev), leading_natCast, leading_natCast]
    exact textWidth_le_of_begins (List.take_prefix_take_left h)
  · have hv : (textWidth m e : Int) < v := Int.ofNat_lt.mpr (Nat.lt_of_not_le hev)
    rw [truncate_of_room htv hv, textWidth_append]
    by_cases hew : w ≤ textWidth m e
    · have htake := textWidth_take_le (m := m) w e
      rw [truncate_of_no_room htw (Int.ofNat_le.mpr hew), leading_natCast]
      omega
    · have hw : (textWidth m e : Int) < w := Int.ofNat_lt.mpr (Nat.lt_of_not_le hew)
      have hroom : ((w : Int) - textWidth m e).toNat ≤ ((v : Int) - textWidth m e).toNat := by omega
      rw [truncate_of_room htw hw, textWidth_append]
      exact Nat.add_le_add_right (textWidth_le_of_begins (fitting_begins_fitting hroom t)) _

/-- **More width gives no narrower outcome**, if the ellipsis has no wide characters. Where the greater
width takes in the whole text, the outcome of the smaller one is within its own width, and so no wider
than the text. -/
theorem textWidth_truncate_mono (he : ∀ c ∈ e, isWide m c.toNat = false) {w v : Int} (hw : 0 ≤ w)
    (hwv : w ≤ v) (t : List Char) :
    textWidth m (truncate m t w e) ≤ textWidth m (truncate m t v e) := by
  obtain ⟨w, rfl⟩ := Int.eq_ofNat_of_zero_le hw
  obtain ⟨v, rfl⟩ := Int.eq_ofNat_of_zero_le (Int.le_trans hw hwv)
  have hle : w ≤ v := Int.ofNat_le.mp hwv
  by_cases hv : textWidth m t ≤ v
  · rw [truncate_of_fits (Int.ofNat_le.mpr hv)]
    by_cases hfits : textWidth m t ≤ w
    · have hsame : truncate m t w e = t := truncate_of_fits (Int.ofNat_le.mpr hfits)
      exact Nat.le_of_eq (congrArg (textWidth m) hsame)
    · have hnarrow := textWidth_truncate_le_of_narrow (t := t) he w
      omega
  · exact textWidth_truncate_le_truncate hle (Nat.lt_of_not_le hv)

/-- A control begins the ellipsis, so that cut to one character it has no cell; two cells later there is
room for a letter and all of the ellipsis. -/
theorem textWidth_truncate_mono_control :
    (∀ c ∈ ['\x07', '.'], isWide .legacy c.toNat = false) ∧ (0 : Int) ≤ 1 ∧ (1 : Int) ≤ 3 ∧
      textWidth .legacy (truncate .legacy ['é', 'é'] 1 ['\x07', '.']) ≤
        textWidth .legacy (truncate .legacy ['é', 'é'] 3 ['\x07', '.']) := by
  have hnarrow : ∀ c ∈ ['\x07', '.'], isWide .legacy c.toNat = false := by
    intro c hc
    simp only [List.mem_cons, List.not_mem_nil, or_false] at hc
    rcases hc with rfl | rfl
    · decide
    · decide
  have hpos : (0 : Int) ≤ 1 := by decide
  have hle : (1 : Int) ≤ 3 := by decide
  exact ⟨hnarrow, hpos, hle, textWidth_truncate_mono hnarrow hpos hle ['é', 'é']⟩

/-- With wide characters in the ellipsis more width can give a narrower outcome: the ellipsis cut alone
is wider than the whole text. -/
example :
    textWidth .legacy (truncate .legacy ['a', 'b', 'c'] 2 ['·', '·']) = 4 ∧
      textWidth .legacy (truncate .legacy ['a', 'b', 'c'] 3 ['·', '·']) = 3 := by
  decide

end CellWidth.Layout
