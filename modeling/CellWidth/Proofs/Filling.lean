import CellWidth.Layout.Pad
import CellWidth.Proofs.Truncation

/-!
# How wide a filled text is

`Layout.pad` puts copies of a fill on one side of a text or on both. How many stand before the text and
how many behind it is `Align.before` and `Align.after`; whether all texts that are made on the way can be
counted, and have room, is `Align.CanFill`. Where they do, the outcome is `filled`, and its width is a sum.

A text that is first cut to a width and then filled up to it takes exactly that width: what the cut
leaves free is filled cell by cell, because neither the ellipsis nor the fill has a wide character.
-/

namespace CellWidth.Layout

/-! ## New texts -/

/-- A new text of so many characters can be counted, and there is room for it. -/
def CanReserve (room length : Nat) : Prop := length ≤ maxCount ∧ length ≤ room

/-- So many copies of a text of so many characters can be made. One copy takes no room, nor does none. -/
def CanCopy (room n length : Nat) : Prop :=
  n ≤ maxCount ∧ (n ≤ 1 ∨ CanReserve room (n * length))

/-- Two texts of so many characters can be joined. Where one of them is empty, that takes no room. -/
def CanJoin (room first second : Nat) : Prop :=
  first = 0 ∨ second = 0 ∨ CanReserve room (first + second)

instance (room length : Nat) : Decidable (CanReserve room length) :=
  inferInstanceAs (Decidable (length ≤ maxCount ∧ length ≤ room))

instance (room n length : Nat) : Decidable (CanCopy room n length) :=
  inferInstanceAs (Decidable (n ≤ maxCount ∧ (n ≤ 1 ∨ CanReserve room (n * length))))

instance (room first second : Nat) : Decidable (CanJoin room first second) :=
  inferInstanceAs (Decidable (first = 0 ∨ second = 0 ∨ CanReserve room (first + second)))

theorem canCopy_zero (room length : Nat) : CanCopy room 0 length :=
  ⟨Nat.zero_le _, Or.inl (Nat.zero_le 1)⟩

section

variable {room n : Nat} {s t : List Char}

theorem reserve_of_canReserve {length : Nat} (h : CanReserve room length) :
    reserve room length = .ok () := by
  rw [reserve, if_neg (Nat.not_lt.mpr h.1), if_neg (Nat.not_lt.mpr h.2)]

/-- Where a new text cannot be made, one of the two limits is why. -/
theorem reserve_of_not_canReserve {length : Nat} (h : ¬CanReserve room length) :
    reserve room length = .error .tooMany ∨ reserve room length = .error .tooLong := by
  unfold reserve
  by_cases hmany : maxCount < length
  · exact Or.inl (if_pos hmany)
  · have hlong : room < length :=
      Nat.lt_of_not_le fun hle => h ⟨Nat.le_of_not_lt hmany, hle⟩
    exact Or.inr (by rw [if_neg hmany, if_pos hlong])

/-- A step that was taken gives its text to the next one. -/
theorem bind_of_ok {α β : Type} {x : Except PadError α} {a : α} (f : α → Except PadError β)
    (h : x = .ok a) : (x >>= f) = f a := by
  rw [h]
  rfl

/-- A refusal stays one through all later steps. -/
theorem bind_of_refused {α β : Type} {x : Except PadError α} (f : α → Except PadError β)
    (h : x = .error .tooMany ∨ x = .error .tooLong) :
    (x >>= f) = .error .tooMany ∨ (x >>= f) = .error .tooLong := by
  rcases h with h | h
  · exact Or.inl (by rw [h]; rfl)
  · exact Or.inr (by rw [h]; rfl)

/-- None and one are no exceptions to what copies of a text are. -/
theorem copies_eq (h : n ≤ maxCount) :
    copies room n t =
      if n ≤ 1 then .ok (List.replicate n t).flatten
      else (reserve room (n * t.length)).map fun _ => (List.replicate n t).flatten := by
  rw [copies, if_neg (Nat.not_lt.mpr h)]
  match n with
  | 0 => rfl
  | 1 =>
    rw [if_neg Nat.one_ne_zero, if_pos rfl, if_pos (Nat.le_refl 1)]
    simp
  | n + 2 => rw [if_neg (by omega), if_neg (by omega), if_neg (by omega)]

/-- Copies are made where they can be. -/
theorem copies_of_canCopy (h : CanCopy room n t.length) :
    copies room n t = .ok (List.replicate n t).flatten := by
  obtain ⟨hcount, hroom⟩ := h
  rw [copies_eq hcount]
  by_cases hone : n ≤ 1
  · exact if_pos hone
  · rw [if_neg hone, reserve_of_canReserve (hroom.resolve_left hone)]
    rfl

theorem copies_of_not_canCopy (h : ¬CanCopy room n t.length) :
    copies room n t = .error .tooMany ∨ copies room n t = .error .tooLong := by
  by_cases hcount : n ≤ maxCount
  · have hone : ¬n ≤ 1 := fun hone => h ⟨hcount, Or.inl hone⟩
    have hroom : ¬CanReserve room (n * t.length) := fun hroom => h ⟨hcount, Or.inr hroom⟩
    rw [copies_eq hcount, if_neg hone]
    exact bind_of_refused _ (reserve_of_not_canReserve hroom)
  · exact Or.inl (if_pos (Nat.lt_of_not_le hcount))

/-- Two texts are joined where they can be; where one is empty nothing has to be made. -/
theorem joined_of_canJoin (h : CanJoin room s.length t.length) : joined room s t = .ok (s ++ t) := by
  cases s with
  | nil => rfl
  | cons c s =>
    cases t with
    | nil => exact congrArg Except.ok (List.append_nil (c :: s)).symm
    | cons d t =>
      have hroom : CanReserve room ((c :: s).length + (d :: t).length) := by
        rcases h with h | h | h
        · exact nomatch h
        · exact nomatch h
        · exact h
      show (reserve room ((c :: s).length + (d :: t).length)).map _ = _
      rw [reserve_of_canReserve hroom]
      rfl

theorem joined_of_not_canJoin (h : ¬CanJoin room s.length t.length) :
    joined room s t = .error .tooMany ∨ joined room s t = .error .tooLong := by
  cases s with
  | nil => exact absurd (Or.inl rfl) h
  | cons c s =>
    cases t with
    | nil => exact absurd (Or.inr (Or.inl rfl)) h
    | cons d t =>
      exact bind_of_refused _ (reserve_of_not_canReserve fun hroom => h (Or.inr (Or.inr hroom)))

end

/-! ## The two sides of a text -/

namespace Align

/-- How many of `n` copies stand before the text. -/
def before : Align → Nat → Nat
  | left, _ => 0
  | right, n => n
  | center, n => n / 2

/-- How many of `n` copies stand behind the text. -/
def after (a : Align) (n : Nat) : Nat := n - a.before n

/-- No copy is lost. -/
theorem before_add_after (a : Align) (n : Nat) : a.before n + a.after n = n := by
  have h : a.before n ≤ n := by
    cases a with
    | left => exact Nat.zero_le n
    | right => exact Nat.le_refl n
    | center => exact Nat.div_le_self n 2
  rw [after]
  omega

/-- Every text that is made on the way can be made: the copies before the text, these and the text, the
copies behind it, and all of it. Only the numbers of characters matter. -/
def CanFill (a : Align) (room : Room) (n : Nat) (fill t : List Char) : Prop :=
  CanCopy room.before (a.before n) fill.length ∧
    CanJoin room.front (a.before n * fill.length) t.length ∧
    CanCopy room.after (a.after n) fill.length ∧
    CanJoin room.whole (a.before n * fill.length + t.length) (a.after n * fill.length)

instance (a : Align) (room : Room) (n : Nat) (fill t : List Char) :
    Decidable (a.CanFill room n fill t) :=
  inferInstanceAs (Decidable
    (CanCopy room.before (a.before n) fill.length ∧
      CanJoin room.front (a.before n * fill.length) t.length ∧
      CanCopy room.after (a.after n) fill.length ∧
      CanJoin room.whole (a.before n * fill.length + t.length) (a.after n * fill.length)))

theorem before_zero (a : Align) : a.before 0 = 0 := by
  cases a with
  | left => rfl
  | right => rfl
  | center => rfl

theorem after_zero (a : Align) : a.after 0 = 0 := by
  rw [after, before_zero]

/-- To leave a text as it is takes no room. -/
theorem canFill_zero (a : Align) (room : Room) (fill t : List Char) : a.CanFill room 0 fill t := by
  unfold CanFill
  rw [a.before_zero, a.after_zero, Nat.zero_mul]
  exact ⟨canCopy_zero _ _, Or.inl rfl, canCopy_zero _ _, Or.inr (Or.inl rfl)⟩

end Align

/-- A text with `n` copies of a fill around it. -/
def filled (a : Align) (n : Nat) (fill t : List Char) : List Char :=
  (List.replicate (a.before n) fill).flatten ++ t ++ (List.replicate (a.after n) fill).flatten

variable {room : Room} {n : Nat} {m : Mode} {a : Align} {fill t : List Char} {w : Int}

/-- The three alignments as one: a side without copies is an empty one, and it takes no room. -/
theorem around_eq (room : Room) (a : Align) (n : Nat) (fill t : List Char) :
    around room a n fill t = (do
      let before ← copies room.before (a.before n) fill
      let front ← joined room.front before t
      joined room.whole front (← copies room.after (a.after n) fill)) := by
  have hnone (room : Nat) : copies room 0 fill = .ok [] := copies_of_canCopy (canCopy_zero room _)
  cases a with
  | left =>
    rw [show Align.left.before n = 0 from rfl, hnone]
    rfl
  | right =>
    have hjoin (front : List Char) : joined room.whole front [] = .ok front := by
      rw [joined_of_canJoin (Or.inr (Or.inl rfl)), List.append_nil]
    rw [show Align.right.after n = 0 from Nat.sub_self n, hnone,
      show Align.right.before n = n from rfl, around]
    cases copies room.before n fill with
    | error e => rfl
    | ok before =>
      show joined room.front before t = joined room.front before t >>= fun front =>
        joined room.whole front []
      cases joined room.front before t with
      | error e => rfl
      | ok front => exact (hjoin front).symm
  | center => rfl

theorem length_flatten_replicate (n : Nat) (t : List Char) :
    (List.replicate n t).flatten.length = n * t.length := by
  simp

/-- Where every step can be taken, the copies stand around the text. -/
theorem around_of_canFill (h : a.CanFill room n fill t) :
    around room a n fill t = .ok (filled a n fill t) := by
  obtain ⟨hbefore, hfront, hafter, hwhole⟩ := h
  rw [← length_flatten_replicate] at hfront
  rw [← length_flatten_replicate, ← List.length_append, ← length_flatten_replicate] at hwhole
  rw [around_eq, bind_of_ok _ (copies_of_canCopy hbefore), bind_of_ok _ (joined_of_canJoin hfront),
    bind_of_ok _ (copies_of_canCopy hafter), joined_of_canJoin hwhole]
  rfl

/-- The first step that cannot be taken refuses the filling. -/
theorem around_of_not_canFill (h : ¬a.CanFill room n fill t) :
    around room a n fill t = .error .tooMany ∨ around room a n fill t = .error .tooLong := by
  unfold Align.CanFill at h
  rw [← length_flatten_replicate, ← length_flatten_replicate, ← List.length_append] at h
  rw [around_eq]
  by_cases hbefore : CanCopy room.before (a.before n) fill.length
  · rw [bind_of_ok _ (copies_of_canCopy hbefore)]
    by_cases hfront : CanJoin room.front (List.replicate (a.before n) fill).flatten.length t.length
    · rw [bind_of_ok _ (joined_of_canJoin hfront)]
      by_cases hafter : CanCopy room.after (a.after n) fill.length
      · rw [bind_of_ok _ (copies_of_canCopy hafter)]
        exact joined_of_not_canJoin fun hwhole => h ⟨hbefore, hfront, hafter, hwhole⟩
      · exact bind_of_refused _ (copies_of_not_canCopy hafter)
    · exact bind_of_refused _ (joined_of_not_canJoin hfront)
  · exact bind_of_refused _ (copies_of_not_canCopy hbefore)

/-- Room for the copies is not room for them and the text. -/
example :
    CanCopy 6 3 ['x', 'y'].length ∧ ¬Align.left.CanFill ⟨0, 0, 6, 6⟩ 3 ['x', 'y'] ['a'] ∧
      Align.left.CanFill ⟨0, 0, 6, 7⟩ 3 ['x', 'y'] ['a'] := by
  decide

/-- The width does not hang on where the copies are. -/
theorem textWidth_filled :
    textWidth m (filled a n fill t) = textWidth m t + n * textWidth m fill := by
  have hsum : a.before n * textWidth m fill + a.after n * textWidth m fill
      = n * textWidth m fill := by
    rw [← Nat.add_mul, a.before_add_after]
  rw [filled, textWidth_append, textWidth_append, textWidth_flatten_replicate,
    textWidth_flatten_replicate]
  omega

/-! ## The fill in use -/

/-- A space takes one cell in either mode. -/
theorem cells_space (m : Mode) : cells m ' '.toNat = 1 := by
  cases m with
  | standard => decide
  | legacy => decide

/-- A fill of one character that is not wide advances by one cell, or a space does so in its place. -/
theorem advancing_of_narrow {f : Char} (hf : isWide m f.toNat = false) :
    ∃ g, advancing m [f] = ([g], 1) ∧ cells m g.toNat = 1 := by
  have hle := cells_le_one hf
  have hhead : headCells m [f] = cells m f.toNat := rfl
  unfold advancing
  by_cases hpos : 0 < headCells m [f]
  · have hone : cells m f.toNat = 1 := by omega
    exact ⟨f, by rw [if_pos hpos, hhead, hone], hone⟩
  · exact ⟨' ', if_neg hpos, cells_space m⟩

/-! ## Padding -/

theorem pad_of_le (h : w ≤ textWidth m t) : pad room m t w a fill = .ok t :=
  if_pos h

theorem pad_of_lt (h : textWidth m t < w) :
    pad room m t w a fill =
      around room a ((w - textWidth m t).toNat / (advancing m fill).2) (advancing m fill).1 t :=
  if_neg (Int.not_le.mpr h)

/-- A narrow fill makes up exactly for what a text lacks. -/
theorem pad_narrow {f : Char} {w : Nat} (hf : isWide m f.toNat = false) (ht : textWidth m t ≤ w) :
    (a.CanFill room (w - textWidth m t) [f] t →
        ∃ r, pad room m t w a [f] = .ok r ∧ textWidth m r = w) ∧
      (¬a.CanFill room (w - textWidth m t) [f] t →
        pad room m t w a [f] = .error .tooMany ∨ pad room m t w a [f] = .error .tooLong) := by
  rcases Nat.eq_or_lt_of_le ht with heq | hlt
  · have hnone : a.CanFill room (w - textWidth m t) [f] t := by
      rw [heq, Nat.sub_self]
      exact a.canFill_zero room [f] t
    exact ⟨fun _ => ⟨t, pad_of_le (Int.ofNat_le.mpr (Nat.le_of_eq heq.symm)), heq⟩,
      fun h => absurd hnone h⟩
  · obtain ⟨g, hg, hone⟩ := advancing_of_narrow hf
    have hpad : pad room m t w a [f] = around room a (w - textWidth m t) [g] t := by
      rw [pad_of_lt (Int.ofNat_lt.mpr hlt), hg, Int.toNat_sub]
      exact congrArg (around room a · [g] t) (Nat.div_one _)
    rw [hpad]
    refine ⟨fun h => ?_, fun h => ?_⟩
    · -- Each of the missing cells is one copy of `g`.
      have hroom : a.CanFill room (w - textWidth m t) [g] t := h
      refine ⟨_, around_of_canFill hroom, ?_⟩
      rw [textWidth_filled, textWidth_cons, textWidth_nil, hone]
      omega
    · have hroom : ¬a.CanFill room (w - textWidth m t) [g] t := h
      exact around_of_not_canFill hroom

/-- **Cut to a width and filled up to it, a text takes exactly that width.** Where a text that is made on
the way cannot be made, the filling is refused. -/
theorem pad_truncate {e : List Char} {f : Char} (he : ∀ c ∈ e, isWide m c.toNat = false)
    (hf : isWide m f.toNat = false) (t : List Char) (w : Nat) (a : Align) (room : Room) :
    let cut := truncate m t w e
    (a.CanFill room (w - textWidth m cut) [f] cut →
        ∃ r, pad room m cut w a [f] = .ok r ∧ textWidth m r = w) ∧
      (¬a.CanFill room (w - textWidth m cut) [f] cut →
        pad room m cut w a [f] = .error .tooMany ∨ pad room m cut w a [f] = .error .tooLong) :=
  pad_narrow hf (textWidth_truncate_le_of_narrow he w)

/-- The legacy mode takes two cells for each letter here, so the cut leaves one cell free; a control as
the fill gives way to a space. -/
theorem pad_truncate_gap :
    (∀ c ∈ dots, isWide .legacy c.toNat = false) ∧ isWide .legacy '\x07'.toNat = false ∧
      ∃ r, pad ⟨0, 0, 0, 4⟩ .legacy (truncate .legacy ['é', 'é', 'é'] (4 : Nat) dots) (4 : Nat) .center
          ['\x07'] = .ok r ∧ textWidth .legacy r = 4 := by
  have hdots := isWide_of_mem_dots .legacy
  have hbell : isWide .legacy '\x07'.toNat = false := by decide
  exact ⟨hdots, hbell,
    (pad_truncate hdots hbell ['é', 'é', 'é'] 4 .center ⟨0, 0, 0, 4⟩).1 (by decide)⟩

/-- A width beyond what can be counted is not reached, however much room there is. -/
theorem pad_truncate_beyond_count :
    (∀ c ∈ dots, isWide .standard c.toNat = false) ∧ isWide .standard ' '.toNat = false ∧
      ∀ room, pad room .standard (truncate .standard [] 0x8000000000000000 dots)
          0x8000000000000000 .left [' '] = .error .tooMany := by
  refine ⟨isWide_of_mem_dots .standard, by decide, fun room => ?_⟩
  have hhead : headCells .standard [' '] = 1 := cells_space .standard
  have hmany : maxCount < 0x8000000000000000 := by decide
  rw [truncate_of_fits (by decide), pad_of_lt (by decide), advancing, hhead, if_pos Nat.one_pos]
  show around room .left 0x8000000000000000 [' '] [] = .error .tooMany
  rw [around, copies, if_pos hmany]
  rfl

end CellWidth.Layout
