import CellWidth.Proofs.Trimming
import CellWidth.Text.Hexadecimal

/-!
# Reading the numbers that are written

Every integer comes back from its hexadecimal form, in either case of letters, padded to any number of
places, with tabs and spaces around it and with or without the mark `0x`.

The reader accepts much more than the writer writes. So what counts is that none of its special
characters is among the digits: no sign, underscore, white space or letter of the mark is a digit
(`digitValue`), and hence none of them is met inside a number that was written.

* `digitValue_digitChar` — a digit is read as its value
* `readMore_map`, `value_digits` — the digits of a number add up to it
* `read?_write` — a number is read back
* `read?_mark_write` — a number that is not negative is read back behind the mark
-/

namespace CellWidth.Text.Hexadecimal

variable {k : LetterCase} {d n : Nat} {c : Char} {t before after : List Char} {ds : List Nat}

/-! ## Digits -/

/-- **A digit is read as its value**, in either case. -/
theorem digitValue_digitChar (h : d < 16) : digitValue (digitChar k d) = some d := by
  have hall : ∀ e ∈ List.range 16, digitValue (digitChar .lower e) = some e ∧
      digitValue (digitChar .upper e) = some e := by decide
  cases k with
  | lower => exact (hall d (List.mem_range.mpr h)).1
  | upper => exact (hall d (List.mem_range.mpr h)).2

/-- The text holds digits only. -/
def IsDigits (t : List Char) : Prop :=
  ∀ c ∈ t, (digitValue c).isSome = true

/-- What has no value as a digit is not among digits. -/
theorem IsDigits.ne (h : IsDigits t) (hc : c ∈ t) {other : Char} (hother : digitValue other = none) :
    c ≠ other := by
  rintro rfl
  have hdigit := h c hc
  rw [hother] at hdigit
  exact Bool.false_ne_true hdigit

/-- Digits are characters of ASCII beyond the space. -/
theorem toNat_of_isSome_digitValue (h : (digitValue c).isSome = true) :
    0x30 ≤ c.toNat ∧ c.toNat < 0x67 := by
  simp only [digitValue, Bool.and_eq_true, decide_eq_true_eq] at h
  split at h
  · omega
  · split at h
    · omega
    · split at h
      · omega
      · simp at h

theorem isDigits_map (h : ∀ d ∈ ds, d < 16) : IsDigits (ds.map (digitChar k)) := by
  intro c hc
  obtain ⟨d, hd, rfl⟩ := List.mem_map.mp hc
  rw [digitValue_digitChar (h d hd)]
  rfl

/-! ## The value of digits -/

/-- The number whose digits follow those of `v`. -/
def value (v : Nat) (ds : List Nat) : Nat :=
  ds.foldl (fun v d => 16 * v + d) v

theorem value_append (v : Nat) (ds es : List Nat) : value v (ds ++ es) = value (value v ds) es :=
  List.foldl_append

/-- Zeros in front make no difference. -/
theorem value_replicate (ds : List Nat) : ∀ m, value 0 (List.replicate m 0 ++ ds) = value 0 ds
  | 0 => rfl
  | m + 1 => value_replicate ds m

/-- The digits of a number are digits to the base of sixteen. -/
theorem digits_lt (n : Nat) : ∀ d ∈ digits n, d < 16 := by
  fun_induction digits n with
  | case1 n h => simpa using h
  | case2 n h ih =>
    intro d hd
    rcases List.mem_append.mp hd with hd | hd
    · exact ih d hd
    · rw [List.mem_singleton.mp hd]
      omega

/-- The digits of a number add up to it. -/
theorem value_digits (n : Nat) : value 0 (digits n) = n := by
  fun_induction digits n with
  | case1 n h => exact Nat.zero_add n
  | case2 n h ih =>
    rw [value_append, ih]
    show 16 * (n / 16) + n % 16 = n
    omega

theorem digits_ne_nil (n : Nat) : digits n ≠ [] := by
  rw [digits]
  split
  · exact List.cons_ne_nil _ _
  · exact List.append_ne_nil_of_right_ne_nil _ (List.cons_ne_nil _ _)

/-! ## Reading digits -/

/-- A digit is never taken for an underscore. -/
theorem readMore_cons {v : Nat} (h : digitValue c = some d) (t : List Char) :
    readMore v (c :: t) = readMore (16 * v + d) t := by
  have hnone : digitValue '_' = none := rfl
  have hc : c ≠ '_' := by
    rintro rfl
    exact Option.some_ne_none d (h.symm.trans hnone)
  rw [readMore]
  · rw [h]
  · exact fun _ _ hunderscore _ => hc hunderscore

/-- Digits are read as the number that they add up to. -/
theorem readMore_map : ∀ (ds : List Nat) (v : Nat), (∀ d ∈ ds, d < 16) →
    readMore v (ds.map (digitChar k)) = some (value v ds)
  | [], _, _ => rfl
  | d :: ds, v, h => by
    obtain ⟨hd, hds⟩ := List.forall_mem_cons.mp h
    rw [List.map_cons, readMore_cons (digitValue_digitChar hd), readMore_map ds _ hds]
    rfl

/-- One digit at least is wanted. -/
theorem readDigits_map (h : ∀ d ∈ ds, d < 16) (hne : ds ≠ []) :
    readDigits (ds.map (digitChar k)) = some (value 0 ds) := by
  cases ds with
  | nil => exact absurd rfl hne
  | cons d ds =>
    obtain ⟨hd, hds⟩ := List.forall_mem_cons.mp h
    rw [List.map_cons, readDigits, digitValue_digitChar hd]
    show readMore d _ = _
    rw [readMore_map ds d hds]
    show _ = some (value (16 * 0 + d) ds)
    rw [Nat.mul_zero, Nat.zero_add]

/-- Digits hold no mark. -/
theorem readUnsigned_of_isDigits (h : IsDigits t) : readUnsigned t = readDigits t := by
  have hlower : 'x' ∉ t := fun hc => h.ne hc rfl rfl
  have hupper : 'X' ∉ t := fun hc => h.ne hc rfl rfl
  unfold readUnsigned
  split
  · exact absurd (List.mem_cons_of_mem _ List.mem_cons_self) hlower
  · exact absurd (List.mem_cons_of_mem _ List.mem_cons_self) hupper
  · exact absurd (List.mem_cons_of_mem _ List.mem_cons_self) hlower
  · exact absurd (List.mem_cons_of_mem _ List.mem_cons_self) hupper
  · rfl

/-- Behind the mark the digits are read, if no underscore comes first. -/
theorem readUnsigned_mark (h : IsDigits t) : readUnsigned ('0' :: 'x' :: t) = readDigits t := by
  rw [readUnsigned]
  rintro rest rfl
  exact h.ne List.mem_cons_self rfl rfl

/-- Digits hold no sign. -/
theorem readSigned_of_isDigits (h : IsDigits t) (hread : readDigits t = some n) :
    readSigned t = some (n : Int) := by
  unfold readSigned
  split
  · exact absurd rfl (h.ne List.mem_cons_self rfl)
  · exact absurd rfl (h.ne List.mem_cons_self rfl)
  · rw [readUnsigned_of_isDigits h, hread]
    rfl

/-- A minus sign in front negates. -/
theorem readSigned_minus (h : IsDigits t) (hread : readDigits t = some n) :
    readSigned ('-' :: t) = some (-(n : Int)) := by
  rw [readSigned, readUnsigned_of_isDigits h, hread]
  rfl

/-! ## Numbers that are written -/

/-- The digits of a number with zeros in front, as they are written. -/
theorem leftpad_digits (places n : Nat) :
    ((digits n).map (digitChar k)).leftpad places '0' =
      (List.replicate (places - (digits n).length) 0 ++ digits n).map (digitChar k) := by
  have hzero : digitChar k 0 = '0' := rfl
  rw [List.leftpad, List.length_map, List.map_append, List.map_replicate, hzero]

theorem isDigits_leftpad (places n : Nat) :
    IsDigits (((digits n).map (digitChar k)).leftpad places '0') := by
  rw [leftpad_digits]
  refine isDigits_map fun d hd => ?_
  rcases List.mem_append.mp hd with hd | hd
  · rw [List.eq_of_mem_replicate hd]
    decide
  · exact digits_lt n d hd

/-- Zeros in front make no difference to the reader. -/
theorem readDigits_leftpad (places n : Nat) :
    readDigits (((digits n).map (digitChar k)).leftpad places '0') = some n := by
  rw [leftpad_digits, readDigits_map, value_replicate, value_digits]
  · intro d hd
    rcases List.mem_append.mp hd with hd | hd
    · rw [List.eq_of_mem_replicate hd]
      decide
    · exact digits_lt n d hd
  · exact List.append_ne_nil_of_right_ne_nil _ (digits_ne_nil n)

/-- Written numbers are digits, with a minus sign before those of a negative number. -/
theorem write_cases (k : LetterCase) (places : Nat) (n : Int) :
    ∃ t, IsDigits t ∧ readDigits t = some n.natAbs ∧
      (n < 0 ∧ write k places n = '-' :: t ∨ 0 ≤ n ∧ write k places n = t) := by
  by_cases hneg : n < 0
  · exact ⟨_, isDigits_leftpad _ _, readDigits_leftpad _ _, .inl ⟨hneg, if_pos hneg⟩⟩
  · exact ⟨_, isDigits_leftpad _ _, readDigits_leftpad _ _, .inr ⟨Int.not_lt.mp hneg, if_neg hneg⟩⟩

/-- Whatever its sign, a number is read back. -/
theorem readSigned_write (k : LetterCase) (places : Nat) (n : Int) :
    readSigned (write k places n) = some n := by
  obtain ⟨t, hdigits, hread, ⟨hneg, hwrite⟩ | ⟨hpos, hwrite⟩⟩ := write_cases k places n
  · rw [hwrite, readSigned_minus hdigits hread, Int.ofNat_natAbs_of_nonpos (Int.le_of_lt hneg),
      Int.neg_neg]
  · rw [hwrite, readSigned_of_isDigits hdigits hread, Int.natAbs_of_nonneg hpos]

theorem write_ne_nil (k : LetterCase) (places : Nat) (n : Int) : write k places n ≠ [] := by
  intro hnil
  have hread := readSigned_write k places n
  rw [hnil] at hread
  exact Option.some_ne_none n hread.symm

/-- Behind the mark there is no sign. -/
theorem readSigned_mark_write (k : LetterCase) (places : Nat) {n : Int} (h : 0 ≤ n) :
    readSigned ('0' :: 'x' :: write k places n) = some n := by
  obtain ⟨t, hdigits, hread, ⟨hneg, hwrite⟩ | ⟨hpos, hwrite⟩⟩ := write_cases k places n
  · exact absurd h (Int.not_le.mpr hneg)
  · rw [hwrite, readSigned, readUnsigned_mark hdigits, hread]
    · exact congrArg some (Int.natAbs_of_nonneg h)
    all_goals simp

/-! ## What stands around a number -/

/-- The text holds visible characters of ASCII only, as written numbers do. -/
def IsSolid (t : List Char) : Prop :=
  ∀ c ∈ t, 0x20 < c.toNat ∧ c.toNat < 0x7F

/-- In a written number there is nothing that would be trimmed. -/
theorem isSolid_write (k : LetterCase) (places : Nat) (n : Int) : IsSolid (write k places n) := by
  obtain ⟨t, hdigits, -, ⟨-, hwrite⟩ | ⟨-, hwrite⟩⟩ := write_cases k places n
  all_goals rw [hwrite]; intro c hc
  · rcases List.mem_cons.mp hc with rfl | hc
    · decide
    · have hbounds := toNat_of_isSome_digitValue (hdigits c hc)
      omega
  · have hbounds := toNat_of_isSome_digitValue (hdigits c hc)
    omega

theorem IsSolid.isTrimmed (h : IsSolid t) : IsTrimmed isMargin t := by
  have hsolid : ∀ c ∈ t, isMargin c = false := by
    intro c hc
    have hbounds := h c hc
    have hspace : c ≠ ' ' := by
      rintro rfl
      exact absurd hbounds.1 (by decide)
    simp only [isMargin, Bool.or_eq_false_iff, beq_eq_false_iff_ne, Bool.and_eq_false_iff,
      decide_eq_false_iff_not]
    exact ⟨hspace, .inr (by omega)⟩
  exact ⟨fun c hc => hsolid c (List.mem_of_head? hc), fun c hc => hsolid c (List.mem_of_getLast? hc)⟩

/-- Spaces and tabs. -/
def IsSpacing (t : List Char) : Prop :=
  ∀ c ∈ t, c = ' ' ∨ c = '\t'

instance (t : List Char) : Decidable (IsSpacing t) :=
  List.decidableBAll (fun c => c = ' ' ∨ c = '\t') t

theorem IsSpacing.isMargin (h : IsSpacing t) : ∀ c ∈ t, isMargin c = true := by
  intro c hc
  rcases h c hc with rfl | rfl
  all_goals decide

theorem map_plain_of_ascii (h : ∀ c ∈ t, c.toNat < 0x7F) : t.map plain = t :=
  (List.map_congr_left fun c hc => if_pos (h c hc)).trans (List.map_id t)

theorem IsSpacing.map_plain (h : IsSpacing t) : t.map plain = t := by
  refine map_plain_of_ascii fun c hc => ?_
  rcases h c hc with rfl | rfl
  all_goals decide

theorem IsSolid.map_plain (h : IsSolid t) : t.map plain = t :=
  map_plain_of_ascii fun c hc => (h c hc).2

/-- Spaces and tabs around a number are passed over. -/
theorem read?_around (hbefore : IsSpacing before) (ht : IsSolid t) (hafter : IsSpacing after) :
    read? (before ++ t ++ after) = readSigned t := by
  rw [read?, List.map_append, List.map_append, hbefore.map_plain, ht.map_plain, hafter.map_plain,
    trimBy_around hbefore.isMargin ht.isTrimmed hafter.isMargin]

/-- **A number that is written is read back**, also with spaces and tabs around it. -/
theorem read?_write (k : LetterCase) (places : Nat) (n : Int) (hbefore : IsSpacing before)
    (hafter : IsSpacing after) : read? (before ++ write k places n ++ after) = some n := by
  rw [read?_around hbefore (isSolid_write k places n) hafter, readSigned_write]

theorem read?_write_append (k : LetterCase) (places : Nat) (n : Int) (hafter : IsSpacing after) :
    read? (write k places n ++ after) = some n :=
  read?_write k places n (List.forall_mem_nil _) hafter

theorem read?_append_write (k : LetterCase) (places : Nat) (n : Int) (hbefore : IsSpacing before) :
    read? (before ++ write k places n) = some n := by
  have h := read?_write k places n hbefore (List.forall_mem_nil _)
  rwa [List.append_nil] at h

/-- **A number that is not negative is read back behind the mark `0x`.** -/
theorem read?_mark_write (k : LetterCase) (places : Nat) {n : Int} (hn : 0 ≤ n)
    (hbefore : IsSpacing before) :
    read? (before ++ '0' :: 'x' :: write k places n) = some n := by
  have hsolid : IsSolid ('0' :: 'x' :: write k places n) := by
    intro c hc
    rcases List.mem_cons.mp hc with rfl | hc
    · decide
    · rcases List.mem_cons.mp hc with rfl | hc
      · decide
      · exact isSolid_write k places n c hc
  have hread := read?_around hbefore hsolid (List.forall_mem_nil _)
  rw [List.append_nil] at hread
  rw [hread, readSigned_mark_write k places hn]

end CellWidth.Text.Hexadecimal
