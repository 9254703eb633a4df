import CellWidth.Proofs.Filling

/-!
# How far a text is filled up

`Layout.pad` counts the copies of a fill by the cells of its first character, but copies the whole fill.
So a text lacks a number of cells (`lacking`), the first characters of the copies take as many of them
as they can, and what they leave is less than one of them takes. Whatever else is in the fill comes on
top.

A fill of one character has nothing else in it, and leaves one cell at most. A longer fill is too wide as
soon as its further characters take more than what the first ones leave.

* `Layout.pad_of_canFill`, `Layout.pad_of_not_canFill` — the outcome, with the number of copies
* `Layout.pad_of_length_le_one` — a fill of one character, or of none
* `Layout.textWidth_pad_le_iff` — when a fill of any length keeps within the width
-/

namespace CellWidth.Layout

variable {room : Room} {m : Mode} {a : Align} {t fill r : List Char} {w : Int}

/-! ## The fill in use -/

/-- The first character of a fill apart from the others. -/
theorem textWidth_eq_headCells_add (m : Mode) : ∀ fill : List Char,
    textWidth m fill = headCells m fill + textWidth m fill.tail
  | [] => rfl
  | _ :: _ => rfl

/-- The fill in use has the cells that are counted for it, and one at least. -/
theorem headCells_advancing (m : Mode) (fill : List Char) :
    headCells m (advancing m fill).1 = (advancing m fill).2 ∧ 0 < (advancing m fill).2 := by
  unfold advancing
  by_cases hpos : 0 < headCells m fill
  · rw [if_pos hpos]
    exact ⟨rfl, hpos⟩
  · rw [if_neg hpos]
    exact ⟨cells_space m, Nat.one_pos⟩

/-- All cells of the fill in use: those that are counted, and those of its further characters. -/
theorem textWidth_advancing (m : Mode) (fill : List Char) :
    textWidth m (advancing m fill).1 =
      (advancing m fill).2 + textWidth m (advancing m fill).1.tail := by
  rw [textWidth_eq_headCells_add, (headCells_advancing m fill).1]

/-! ## The number of copies -/

/-- The cells that a text lacks. -/
def lacking (m : Mode) (t : List Char) (w : Int) : Nat :=
  (w - textWidth m t).toNat

/-- How many copies of the fill in use are put beside a text. -/
def copyCount (m : Mode) (t : List Char) (w : Int) (fill : List Char) : Nat :=
  lacking m t w / (advancing m fill).2

theorem lacking_of_le (h : w ≤ textWidth m t) : lacking m t w = 0 := by
  unfold lacking
  omega

theorem textWidth_add_lacking (h : textWidth m t ≤ w) : (textWidth m t : Int) + lacking m t w = w := by
  unfold lacking
  omega

/-- What the first characters of the copies leave free is less than one of them takes. -/
theorem copyCount_mul_add (m : Mode) (t : List Char) (w : Int) (fill : List Char) :
    copyCount m t w fill * (advancing m fill).2 + lacking m t w % (advancing m fill).2 =
        lacking m t w ∧
      lacking m t w % (advancing m fill).2 < (advancing m fill).2 :=
  ⟨by rw [copyCount, Nat.mul_comm, Nat.div_add_mod],
    Nat.mod_lt _ (headCells_advancing m fill).2⟩

/-! ## The outcome -/

theorem filled_zero (a : Align) (fill t : List Char) : filled a 0 fill t = t := by
  rw [filled, a.before_zero, a.after_zero]
  exact List.append_nil t

theorem around_zero (room : Room) (a : Align) (fill t : List Char) :
    around room a 0 fill t = .ok t := by
  rw [around_of_canFill (a.canFill_zero room fill t), filled_zero]

/-- A text that lacks nothing is one with no copy beside it. -/
theorem pad_eq_around (room : Room) (m : Mode) (t : List Char) (w : Int) (a : Align)
    (fill : List Char) :
    pad room m t w a fill = around room a (copyCount m t w fill) (advancing m fill).1 t := by
  by_cases h : w ≤ textWidth m t
  · rw [pad_of_le h, copyCount, lacking_of_le h, Nat.zero_div, around_zero]
  · exact pad_of_lt (Int.not_le.mp h)

theorem pad_of_canFill (h : a.CanFill room (copyCount m t w fill) (advancing m fill).1 t) :
    pad room m t w a fill = .ok (filled a (copyCount m t w fill) (advancing m fill).1 t) := by
  rw [pad_eq_around, around_of_canFill h]

theorem pad_of_not_canFill (h : ¬a.CanFill room (copyCount m t w fill) (advancing m fill).1 t) :
    pad room m t w a fill = .error .tooMany ∨ pad room m t w a fill = .error .tooLong := by
  rw [pad_eq_around]
  exact around_of_not_canFill h

/-- Where there is an outcome, it is the text with the copies around it. -/
theorem eq_filled_of_pad (h : pad room m t w a fill = .ok r) :
    r = filled a (copyCount m t w fill) (advancing m fill).1 t := by
  by_cases hroom : a.CanFill room (copyCount m t w fill) (advancing m fill).1 t
  · exact Except.ok.inj (h.symm.trans (pad_of_canFill hroom))
  · rcases pad_of_not_canFill hroom with he | he
    · exact nomatch h.symm.trans he
    · exact nomatch h.symm.trans he

/-- The cells of the outcome: those of the text, those counted for the copies, and those of the further
characters in the copies. The alignment makes no difference. -/
theorem textWidth_of_pad (h : pad room m t w a fill = .ok r) :
    textWidth m r = textWidth m t + copyCount m t w fill * (advancing m fill).2 +
      copyCount m t w fill * textWidth m (advancing m fill).1.tail := by
  rw [eq_filled_of_pad h, textWidth_filled, textWidth_advancing, Nat.mul_add, Nat.add_assoc]

/-! ## A fill of one character -/

/-- A fill, or a space in the place of one that takes no cell. -/
def orSpace (m : Mode) (fill : List Char) : List Char :=
  if 0 < textWidth m fill then fill else [' ']

theorem textWidth_tail_of_length_le_one (h : fill.length ≤ 1) : textWidth m fill.tail = 0 := by
  have htail : fill.tail = [] := by
    rw [← List.length_eq_zero_iff, List.length_tail]
    omega
  rw [htail, textWidth_nil]

/-- The cells of a single character are those of the whole fill. -/
theorem advancing_of_length_le_one (h : fill.length ≤ 1) :
    advancing m fill = (orSpace m fill, textWidth m (orSpace m fill)) := by
  have hhead : textWidth m fill = headCells m fill := by
    rw [textWidth_eq_headCells_add, textWidth_tail_of_length_le_one h, Nat.add_zero]
  unfold advancing orSpace
  rw [hhead]
  by_cases hpos : 0 < headCells m fill
  · rw [if_pos hpos, if_pos hpos, hhead]
  · rw [if_neg hpos, if_neg hpos, textWidth_cons, textWidth_nil, cells_space]

theorem length_orSpace_le_one (h : fill.length ≤ 1) : (orSpace m fill).length ≤ 1 := by
  unfold orSpace
  split
  · exact h
  · exact Nat.le_refl 1

theorem textWidth_le_two (h : fill.length ≤ 1) : textWidth m fill ≤ 2 := by
  cases fill with
  | nil => exact Nat.zero_le 2
  | cons c fill =>
    have hrest := textWidth_tail_of_length_le_one (m := m) h
    have hc := cells_le_two (m := m) c.toNat
    rw [List.tail_cons] at hrest
    rw [textWidth_cons]
    omega

/-- How the copies are shared out, one alignment after the other. -/
theorem Align.shares (a : Align) (n : Nat) :
    (a = .left → a.before n = 0) ∧ (a = .right → a.after n = 0) ∧
      (a = .center → a.after n = a.before n ∨ a.after n = a.before n + 1) := by
  cases a with
  | left => exact ⟨fun _ => rfl, nofun, nofun⟩
  | right => exact ⟨nofun, fun _ => Nat.sub_self n, nofun⟩
  | center =>
    refine ⟨nofun, nofun, fun _ => ?_⟩
    simp only [Align.after, Align.before]
    omega

/-- One character leaves a cell free at most, and only if it takes two and the number is odd. -/
theorem textWidth_of_pad_single (hfill : fill.length ≤ 1) (hlt : textWidth m t < w)
    (h : pad room m t w a fill = .ok r) :
    (textWidth m r : Int) =
      if textWidth m (orSpace m fill) = 2 ∧ (w - textWidth m t) % 2 = 1 then w - 1 else w := by
  have hwidth := textWidth_of_pad h
  have hcount := copyCount_mul_add m t w fill
  have hpos := (headCells_advancing m fill).2
  have hlack := textWidth_add_lacking (m := m) (t := t) (Int.le_of_lt hlt)
  have hle := textWidth_le_two (m := m) (length_orSpace_le_one (m := m) hfill)
  simp only [advancing_of_length_le_one hfill] at hwidth hcount hpos
  rw [textWidth_tail_of_length_le_one (length_orSpace_le_one hfill), Nat.mul_zero] at hwidth
  -- The character takes one cell and leaves none, or two and leaves the odd one.
  obtain hone | htwo : textWidth m (orSpace m fill) = 1 ∨ textWidth m (orSpace m fill) = 2 := by
    omega
  · rw [hone] at hwidth hcount
    rw [if_neg (by omega)]
    omega
  · rw [htwo] at hwidth hcount
    split
    · omega
    · omega

/-- **A fill of one character fills a text up as far as it goes.** A text that is wide enough stays. Else
the fill, or a space where it takes no cell, is copied as often as it fits into the cells that the text
lacks; the copies are behind the text, before it, or shared out with the odd one behind. The outcome has
the width, but for one cell where the fill takes two and the lacking cells are odd in number, and this
does not hang on the alignment. If a text that is made on the way cannot be made, the padding is
refused. -/
theorem pad_of_length_le_one (hfill : fill.length ≤ 1) (room : Room) (m : Mode) (t : List Char)
    (w : Int) (a : Align) :
    (w ≤ textWidth m t → pad room m t w a fill = .ok t) ∧
    (textWidth m t < w →
      let f := orSpace m fill
      let n := (w - textWidth m t).toNat / textWidth m f
      (a.CanFill room n f t → ∃ front back,
        pad room m t w a fill =
          .ok ((List.replicate front f).flatten ++ t ++ (List.replicate back f).flatten) ∧
        front + back = n ∧
        (a = .left → front = 0) ∧ (a = .right → back = 0) ∧
        (a = .center → back = front ∨ back = front + 1)) ∧
      (∀ b r, pad room m t w b fill = .ok r → (textWidth m r : Int) =
        if textWidth m f = 2 ∧ (w - textWidth m t) % 2 = 1 then w - 1 else w) ∧
      (¬a.CanFill room n f t →
        pad room m t w a fill = .error .tooMany ∨ pad room m t w a fill = .error .tooLong)) := by
  refine ⟨pad_of_le, fun hlt => ?_⟩
  intro f n
  have hused : advancing m fill = (f, textWidth m f) := advancing_of_length_le_one hfill
  have hcount : copyCount m t w fill = n := by rw [copyCount, hused]; rfl
  refine ⟨fun hroom => ?_, fun b r h => textWidth_of_pad_single hfill hlt h, fun hroom => ?_⟩
  · have hpad : pad room m t w a fill = .ok (filled a n f t) := by
      rw [pad_of_canFill (by rw [hcount, hused]; exact hroom), hcount, hused]
    exact ⟨a.before n, a.after n, hpad, a.before_add_after n, a.shares n⟩
  · exact pad_of_not_canFill (by rw [hcount, hused]; exact hroom)

/-- In the legacy mode `é` takes two cells. Of the five cells that the text lacks, a copy on either side
takes two, and one stays free. -/
theorem pad_of_length_le_one_gap :
    ['é'].length ≤ 1 ∧ (textWidth .legacy ['a'] : Int) < 6 ∧
      Align.center.CanFill ⟨0, 2, 0, 3⟩ 2 ['é'] ['a'] ∧
      (∃ front back, pad ⟨0, 2, 0, 3⟩ .legacy ['a'] 6 .center ['é'] =
          .ok ((List.replicate front ['é']).flatten ++ ['a'] ++ (List.replicate back ['é']).flatten) ∧
        front + back = 2 ∧ (back = front ∨ back = front + 1)) ∧
      ∀ b r, pad ⟨0, 2, 0, 3⟩ .legacy ['a'] 6 b ['é'] = .ok r → (textWidth .legacy r : Int) = 6 - 1 := by
  have hlt : (textWidth .legacy ['a'] : Int) < 6 := by decide
  have hroom : Align.center.CanFill ⟨0, 2, 0, 3⟩ 2 ['é'] ['a'] := by decide
  have hused : orSpace .legacy ['é'] = ['é'] := by decide
  have hcount : ((6 : Int) - textWidth .legacy ['a']).toNat / textWidth .legacy ['é'] = 2 := by decide
  have hone : ['é'].length ≤ 1 := Nat.le_refl 1
  have h := (pad_of_length_le_one hone ⟨0, 2, 0, 3⟩ .legacy ['a'] 6 .center).2 hlt
  dsimp only at h
  rw [hused, hcount] at h
  obtain ⟨hpad, hwidth, -⟩ := h
  obtain ⟨front, back, hresult, hsum, -, -, hcenter⟩ := hpad hroom
  refine ⟨hone, hlt, hroom, ⟨front, back, hresult, hsum, hcenter rfl⟩, fun b r h => ?_⟩
  rw [hwidth b r h]
  exact if_pos (by decide)

/-- More copies than can be counted are not made, however much room there is. -/
theorem pad_of_length_le_one_beyond_count :
    [' '].length ≤ 1 ∧ (textWidth .standard ['a'] : Int) < 0x8000000000000001 ∧
      ∀ room, pad room .standard ['a'] 0x8000000000000001 .right [' '] = .error .tooMany := by
  refine ⟨by decide, by decide +kernel, fun room => ?_⟩
  have hcount : copyCount .standard ['a'] 0x8000000000000001 [' '] = 0x8000000000000000 := by
    decide +kernel
  have hmany : maxCount < 0x8000000000000000 := by decide
  rw [pad_eq_around, hcount, around, copies, if_pos hmany]
  rfl

/-! ## A fill of any length -/

theorem textWidth_of_pad_le_iff (h : pad room m t w a fill = .ok r) :
    (textWidth m r : Int) ≤ max w (textWidth m t) ↔
      copyCount m t w fill * textWidth m (advancing m fill).1.tail ≤
        lacking m t w % (advancing m fill).2 := by
  have hcount := (copyCount_mul_add m t w fill).1
  rw [textWidth_of_pad h]
  by_cases hle : w ≤ textWidth m t
  · -- Nothing lacks, so no copy is made, and none is too wide.
    have hnone : copyCount m t w fill = 0 := by rw [copyCount, lacking_of_le hle, Nat.zero_div]
    rw [hnone, lacking_of_le hle, Nat.zero_mul, Nat.zero_mul, Nat.zero_mod]
    omega
  · have hlack := textWidth_add_lacking (Int.le_of_lt (Int.not_le.mp hle))
    omega

/-- **A filled text is within the width if and only if the further characters of the fill fit into what
the first ones leave free.** The first character of a fill decides how often it is copied; the others, in
all copies together, take cells that are not counted. If a text that is made on the way cannot be made,
the padding is refused. -/
theorem textWidth_pad_le_iff (room : Room) (m : Mode) (t : List Char) (w : Int) (a : Align)
    (fill : List Char) :
    let used := advancing m fill
    let n := copyCount m t w fill
    (a.CanFill room n used.1 t → ∃ r, pad room m t w a fill = .ok r ∧
      ((textWidth m r : Int) ≤ max w (textWidth m t) ↔
        n * textWidth m used.1.tail ≤ lacking m t w % used.2)) ∧
    (¬a.CanFill room n used.1 t →
      pad room m t w a fill = .error .tooMany ∨ pad room m t w a fill = .error .tooLong) := by
  intro used n
  refine ⟨fun hroom => ?_, pad_of_not_canFill⟩
  have hpad : pad room m t w a fill = .ok (filled a n used.1 t) := pad_of_canFill hroom
  exact ⟨_, hpad, textWidth_of_pad_le_iff hpad⟩

/-- Two letters are copied as often as one of them would have to be. -/
theorem pad_of_two_letters :
    pad ⟨0, 0, 6, 7⟩ .standard ['a'] 4 .left ['x', 'y'] = .ok ['a', 'x', 'y', 'x', 'y', 'x', 'y'] ∧
      ¬(textWidth .standard ['a', 'x', 'y', 'x', 'y', 'x', 'y'] : Int) ≤
        max 4 (textWidth .standard ['a'] : Int) := by
  have hroom : Align.left.CanFill ⟨0, 0, 6, 7⟩ 3 ['x', 'y'] ['a'] := by decide
  exact ⟨pad_of_canFill hroom, by decide⟩

end CellWidth.Layout
