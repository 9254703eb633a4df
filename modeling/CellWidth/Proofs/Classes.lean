import CellWidth.Proofs.Search
import CellWidth.Width

/-!
# The classes of code points

`standardWidth` asks its questions in a fixed order, and the first that applies answers. Here the four
answers are described without an order: a code point is a control, or invisible, or double, or none of
these, and no two at once.

An early answer could hide an entry of a table that is asked later. What rules this out is a fact on
each table: below U+0300 the table of code points without width holds SOFT HYPHEN alone, and the wide
table holds nothing below U+1100 and nothing of the combining letters of Hangul.
-/

namespace CellWidth

/-! ## The tables -/

namespace Unicode

/-- The tables are searchable, which is found out by going through them. -/
theorem zeroWidth_ascending : zeroWidth.Ascending := by
  have h : zeroWidth.flaw? = none := by decide +kernel
  exact (Table.flaw?_eq_none_iff.mp h).2

theorem wide_ascending : wide.Ascending := by
  have h : wide.flaw? = none := by decide +kernel
  exact (Table.flaw?_eq_none_iff.mp h).2

/-- So for both of them the search says what is in the table. -/
theorem zeroWidth_search (c : Int) : zeroWidth.search c = zeroWidth.covers c :=
  zeroWidth_ascending.search_eq_covers c

theorem wide_search (c : Int) : wide.search c = wide.covers c :=
  wide_ascending.search_eq_covers c

/-- SOFT HYPHEN apart, nothing below U+0300 is in the table of code points without width. -/
theorem le_of_zeroWidth_covers {c : Int} (h : zeroWidth.covers c = true) (hc : c ≠ 0xAD) :
    0x300 ≤ c := by
  have hall : ∀ i ∈ zeroWidth.toList, i = Interval.single 0xAD ∨ 0x300 ≤ i.first := by
    decide +kernel
  obtain ⟨i, hi, hci⟩ := Table.covers_iff.mp h
  obtain ⟨hfirst, hlast⟩ := Interval.mem_iff.mp hci
  rcases hall i (Array.mem_toList_iff.mpr hi) with rfl | hle
  · simp only [Interval.single] at hfirst hlast
    omega
  · omega

/-- The wide table begins at U+1100 and leaves out the combining letters of Hangul. -/
theorem bounds_of_wide_covers {c : Int} (h : wide.covers c = true) :
    0x1100 ≤ c ∧ ¬(0x1160 ≤ c ∧ c ≤ 0x11FF) := by
  have hall : ∀ i ∈ wide.toList, 0x1100 ≤ i.first ∧ (i.last < 0x1160 ∨ 0x11FF < i.first) := by
    decide +kernel
  obtain ⟨i, hi, hci⟩ := Table.covers_iff.mp h
  obtain ⟨hfirst, hlast⟩ := Interval.mem_iff.mp hci
  have hbounds := hall i (Array.mem_toList_iff.mpr hi)
  omega

end Unicode

/-! ## The classes -/

/-- A control: C0 without NUL, DELETE, C1, and whatever is below zero. -/
def IsControl (c : Int) : Prop :=
  c < 0 ∨ (1 ≤ c ∧ c ≤ 0x1F) ∨ (0x7F ≤ c ∧ c ≤ 0x9F)

instance (c : Int) : Decidable (IsControl c) :=
  inferInstanceAs (Decidable (c < 0 ∨ (1 ≤ c ∧ c ≤ 0x1F) ∨ (0x7F ≤ c ∧ c ≤ 0x9F)))

/-- No cell: NUL, the combining letters of Hangul, and the table of code points without width except
for SOFT HYPHEN. -/
def IsInvisible (c : Int) : Prop :=
  c = 0 ∨ (0x1160 ≤ c ∧ c ≤ 0x11FF) ∨ (Unicode.zeroWidth.covers c = true ∧ c ≠ 0xAD)

instance (c : Int) : Decidable (IsInvisible c) :=
  inferInstanceAs (Decidable
    (c = 0 ∨ (0x1160 ≤ c ∧ c ≤ 0x11FF) ∨ (Unicode.zeroWidth.covers c = true ∧ c ≠ 0xAD)))

/-- Two cells: wide, and not in the other table as well. -/
def IsDouble (c : Int) : Prop :=
  Unicode.wide.covers c = true ∧ Unicode.zeroWidth.covers c = false

instance (c : Int) : Decidable (IsDouble c) :=
  inferInstanceAs (Decidable (Unicode.wide.covers c = true ∧ Unicode.zeroWidth.covers c = false))

/-- The rules with the tables as sets. -/
theorem standardWidth_eq_covers (c : Int) :
    standardWidth c =
      if c < 0x300 then
        if c = 0 then some 0
        else if c < 0x20 ∨ (0x7F ≤ c ∧ c < 0xA0) then none
        else some 1
      else if Unicode.zeroWidth.covers c then some 0
      else if c < 0x1100 then some 1
      else if 0x1160 ≤ c ∧ c ≤ 0x11FF then some 0
      else if Unicode.wide.covers c then some 2
      else some 1 := by
  rw [standardWidth, Unicode.zeroWidth_search, Unicode.wide_search]

/-- A control is found below U+0300. -/
theorem standardWidth_of_isControl {c : Int} (h : IsControl c) : standardWidth c = none := by
  unfold IsControl at h
  rw [standardWidth, if_pos (by omega), if_neg (by omega), if_pos (by omega)]

theorem standardWidth_eq_none_iff {c : Int} : standardWidth c = none ↔ IsControl c := by
  refine ⟨fun h => ?_, standardWidth_of_isControl⟩
  unfold standardWidth at h
  by_cases hlow : c < 0x300
  · rw [if_pos hlow] at h
    split at h
    · cases h
    · split at h
      · unfold IsControl
        omega
      · cases h
  · -- From U+0300 on every answer is a number.
    rw [if_neg hlow] at h
    repeat' split at h
    all_goals cases h

/-- The controls are the same in both modes. -/
theorem width_eq_none_iff {m : Mode} {c : Int} : width m c = none ↔ IsControl c := by
  rw [← standardWidth_eq_none_iff]
  cases m with
  | standard => rfl
  | legacy =>
    rw [width]
    split
    · next h => simp [h.1]
    · rfl

theorem standardWidth_of_isInvisible {c : Int} (h : IsInvisible c) :
    standardWidth c = some 0 := by
  rw [standardWidth_eq_covers]
  rcases h with rfl | hhangul | ⟨hzero, hne⟩
  · rfl
  · rw [if_neg (by omega)]
    by_cases hzero : Unicode.zeroWidth.covers c = true
    · rw [if_pos hzero]
    · rw [if_neg hzero, if_neg (by omega), if_pos hhangul]
  · have hle := Unicode.le_of_zeroWidth_covers hzero hne
    rw [if_neg (by omega), if_pos hzero]

/-- A wide code point is beyond all the questions before, if it is not in the other table. -/
theorem standardWidth_of_isDouble {c : Int} (h : IsDouble c) : standardWidth c = some 2 := by
  obtain ⟨hwide, hzero⟩ := h
  obtain ⟨hle, hhangul⟩ := Unicode.bounds_of_wide_covers hwide
  rw [standardWidth_eq_covers, if_neg (by omega), if_neg (by simp [hzero]), if_neg (by omega),
    if_neg hhangul, if_pos hwide]

theorem standardWidth_of_other {c : Int} (hcontrol : ¬IsControl c) (hinvisible : ¬IsInvisible c)
    (hdouble : ¬IsDouble c) : standardWidth c = some 1 := by
  unfold IsControl at hcontrol
  simp only [IsInvisible, not_or, not_and, Decidable.not_not] at hinvisible
  obtain ⟨hnul, hhangul, hzero⟩ := hinvisible
  rw [standardWidth_eq_covers]
  by_cases hlow : c < 0x300
  · rw [if_pos hlow, if_neg hnul, if_neg (by omega)]
  · -- From U+0300 on only the table itself makes a code point invisible.
    have hcov : Unicode.zeroWidth.covers c = false := by
      cases hcov : Unicode.zeroWidth.covers c with
      | false => rfl
      | true =>
        have := hzero hcov
        omega
    have hwide : ¬Unicode.wide.covers c = true := fun hwide => hdouble ⟨hwide, hcov⟩
    rw [if_neg hlow, if_neg (by simp [hcov])]
    by_cases hmid : c < 0x1100
    · rw [if_pos hmid]
    · rw [if_neg hmid, if_neg (by omega), if_neg hwide]

/-- **The width of a code point without an order of rules.** The four answers are four classes, for
every integer. -/
theorem width_standard_iff (c : Int) :
    (width .standard c = none ↔ IsControl c) ∧
      (width .standard c = some 0 ↔ IsInvisible c) ∧
      (width .standard c = some 2 ↔ IsDouble c) ∧
      (width .standard c = some 1 ↔ ¬IsControl c ∧ ¬IsInvisible c ∧ ¬IsDouble c) := by
  rw [show width .standard c = standardWidth c from rfl]
  -- Each class has an answer of its own, so no code point is in two of them.
  by_cases hcontrol : IsControl c
  · have hw := standardWidth_of_isControl hcontrol
    have hinvisible : ¬IsInvisible c := fun h => by simp [standardWidth_of_isInvisible h] at hw
    have hdouble : ¬IsDouble c := fun h => by simp [standardWidth_of_isDouble h] at hw
    simp [hw, hcontrol, hinvisible, hdouble]
  · by_cases hinvisible : IsInvisible c
    · have hw := standardWidth_of_isInvisible hinvisible
      have hdouble : ¬IsDouble c := fun h => by simp [standardWidth_of_isDouble h] at hw
      simp [hw, hcontrol, hinvisible, hdouble]
    · by_cases hdouble : IsDouble c
      · have hw := standardWidth_of_isDouble hdouble
        simp [hw, hcontrol, hinvisible, hdouble]
      · have hw := standardWidth_of_other hcontrol hinvisible hdouble
        simp [hw, hcontrol, hinvisible, hdouble]

end CellWidth
