import CellWidth.Proofs.Utf8

/-!
# Only what has been encoded is decoded

Bytes that are decoded without a fault are the bytes of the text that comes out. The first byte fixes how
many follow it and the range of the next one; within these ranges the code point that is put together is
in the class that the encoder writes with as many bytes, and its parts are the bytes again.

Together with `Utf8.decode_encode` this says which bytes are UTF-8: those that the encoder writes.

* `Utf8.utf8EncodeChar_of_scan` — one character
* `Utf8.decode_eq_ok_iff` — a whole text
-/

namespace CellWidth.Text.Utf8

variable {v low high : Nat} {b c d e : UInt8} {rest left : List UInt8}

theorem eq_ofNat {n : Nat} (h : b.toNat = n) : b = .ofNat n := by
  rw [← h, UInt8.ofNat_toNat]

/-! ## What the encoder writes -/

theorem toNat_val_ofNat (h : v.isValidChar) : (Char.ofNat v).val.toNat = v := by
  rw [Char.toNat_val, Char.ofNat, dif_pos h]
  rfl

theorem utf8EncodeChar_one (h : v < 0x80) : String.utf8EncodeChar (.ofNat v) = [.ofNat v] := by
  have hv := toNat_val_ofNat (v := v) (Or.inl (by omega))
  simp only [String.utf8EncodeChar, hv]
  rw [if_pos (by omega)]

/-- Two bytes write the code point that is put together from them. -/
theorem utf8EncodeChar_two (hv : v = 64 * (b.toNat - 0xC0) + (c.toNat - 0x80))
    (hb : 0xC2 ≤ b.toNat) (hb' : b.toNat < 0xE0) (hc : 0x80 ≤ c.toNat) (hc' : c.toNat ≤ 0xBF) :
    String.utf8EncodeChar (.ofNat v) = [b, c] := by
  have hval := toNat_val_ofNat (v := v) (Or.inl (by omega))
  have hfirst : b = .ofNat (v / 64 % 32 + 192) := eq_ofNat (by omega)
  have hsecond : c = .ofNat (v % 64 + 128) := eq_ofNat (by omega)
  simp only [String.utf8EncodeChar, hval]
  rw [if_neg (by omega), if_pos (by omega), ← hfirst, ← hsecond]

/-- Three bytes: the bounds of the second one rule out a code point of two bytes, and surrogates. -/
theorem utf8EncodeChar_three
    (hv : v = 64 * (64 * (b.toNat - 0xE0) + (c.toNat - 0x80)) + (d.toNat - 0x80))
    (hb : 0xE0 ≤ b.toNat) (hb' : b.toNat < 0xF0)
    (hc : (if b.toNat = 0xE0 then 0xA0 else 0x80) ≤ c.toNat)
    (hc' : c.toNat ≤ if b.toNat = 0xED then 0x9F else 0xBF)
    (hd : 0x80 ≤ d.toNat) (hd' : d.toNat ≤ 0xBF) :
    String.utf8EncodeChar (.ofNat v) = [b, c, d] := by
  have hshort : 0x80 ≤ c.toNat ∧ 0x800 ≤ v := by split at hc <;> omega
  have hsurrogate : c.toNat ≤ 0xBF ∧ (v < 0xD800 ∨ 0xDFFF < v) := by split at hc' <;> omega
  have hval := toNat_val_ofNat (v := v) (hsurrogate.2.imp id fun hs => ⟨hs, by omega⟩)
  have hfirst : b = .ofNat (v / 4096 % 16 + 224) := eq_ofNat (by omega)
  have hsecond : c = .ofNat (v / 64 % 64 + 128) := eq_ofNat (by omega)
  have hthird : d = .ofNat (v % 64 + 128) := eq_ofNat (by omega)
  simp only [String.utf8EncodeChar, hval]
  rw [if_neg (by omega), if_neg (by omega), if_pos (by omega), ← hfirst, ← hsecond, ← hthird]

/-- Four bytes: the bounds of the second one rule out a code point of three bytes, and what lies beyond
the code space. -/
theorem utf8EncodeChar_four
    (hv : v = 64 * (64 * (64 * (b.toNat - 0xF0) + (c.toNat - 0x80)) + (d.toNat - 0x80)) +
      (e.toNat - 0x80))
    (hb : 0xF0 ≤ b.toNat) (hb' : b.toNat ≤ 0xF4)
    (hc : (if b.toNat = 0xF0 then 0x90 else 0x80) ≤ c.toNat)
    (hc' : c.toNat ≤ if b.toNat = 0xF4 then 0x8F else 0xBF)
    (hd : 0x80 ≤ d.toNat) (hd' : d.toNat ≤ 0xBF) (he : 0x80 ≤ e.toNat) (he' : e.toNat ≤ 0xBF) :
    String.utf8EncodeChar (.ofNat v) = [b, c, d, e] := by
  have hshort : 0x80 ≤ c.toNat ∧ 0x10000 ≤ v := by split at hc <;> omega
  have hspace : c.toNat ≤ 0xBF ∧ v < 0x110000 := by split at hc' <;> omega
  have hval := toNat_val_ofNat (v := v) (Or.inr ⟨by omega, hspace.2⟩)
  have hfirst : b = .ofNat (v / 262144 % 8 + 240) := eq_ofNat (by omega)
  have hsecond : c = .ofNat (v / 4096 % 64 + 128) := eq_ofNat (by omega)
  have hthird : d = .ofNat (v / 64 % 64 + 128) := eq_ofNat (by omega)
  have hfourth : e = .ofNat (v % 64 + 128) := eq_ofNat (by omega)
  simp only [String.utf8EncodeChar, hval]
  rw [if_neg (by omega), if_neg (by omega), if_neg (by omega), ← hfirst, ← hsecond, ← hthird,
    ← hfourth]

/-! ## What the decoder takes -/

/-- The first bytes that announce further ones, in three ranges. -/
theorem lead?_cases {b : Nat} {l : Lead} (h : lead? b = some l) :
    (0xC2 ≤ b ∧ b < 0xE0 ∧ l = ⟨1, b - 0xC0, 0x80, 0xBF⟩) ∨
    (0xE0 ≤ b ∧ b < 0xF0 ∧
      l = ⟨2, b - 0xE0, if b = 0xE0 then 0xA0 else 0x80, if b = 0xED then 0x9F else 0xBF⟩) ∨
    (0xF0 ≤ b ∧ b ≤ 0xF4 ∧
      l = ⟨3, b - 0xF0, if b = 0xF0 then 0x90 else 0x80, if b = 0xF4 then 0x8F else 0xBF⟩) := by
  by_cases hlow : b < 0xC2
  · rw [lead?, if_pos hlow] at h
    cases h
  · by_cases htwo : b < 0xE0
    · exact Or.inl ⟨by omega, htwo, Option.some.inj (h.symm.trans (lead?_two (by omega) htwo))⟩
    · by_cases hthree : b < 0xF0
      · have hl := Option.some.inj (h.symm.trans (lead?_three (by omega) hthree))
        exact Or.inr (Or.inl ⟨by omega, hthree, hl⟩)
      · by_cases hfour : b ≤ 0xF4
        · have hl := Option.some.inj (h.symm.trans (lead?_four (by omega) hfour))
          exact Or.inr (Or.inr ⟨by omega, hfour, hl⟩)
        · rw [lead?, if_neg hlow, if_neg htwo, if_neg (by omega), if_neg (by omega), if_neg hthree,
            if_neg (by omega), if_neg (by omega), if_neg (by omega)] at h
          cases h

/-- A character that still lacks bytes takes one in range. -/
theorem scanTail_succ_cases {n taken code length : Nat} {bs : List UInt8}
    (h : scanTail low high (n + 1) v taken bs = .char code length left) :
    ∃ b bs', bs = b :: bs' ∧ low ≤ b.toNat ∧ b.toNat ≤ high ∧
      scanTail 0x80 0xBF n (64 * v + (b.toNat - 0x80)) (taken + 1) bs' = .char code length left := by
  cases bs with
  | nil => cases h
  | cons b bs' =>
    rw [scanTail] at h
    by_cases hb : low ≤ b.toNat ∧ b.toNat ≤ high
    · rw [if_pos hb] at h
      exact ⟨b, bs', rfl, hb.1, hb.2, h⟩
    · rw [if_neg hb] at h
      cases h

theorem scanTail_zero_cases {taken code length : Nat} {bs : List UInt8}
    (h : scanTail low high 0 v taken bs = .char code length left) : code = v ∧ left = bs := by
  rw [scanTail_zero] at h
  obtain ⟨rfl, -, rfl⟩ := Scan.char.inj h
  exact ⟨rfl, rfl⟩

/-- **A character that is read is written with the bytes that it was read from.** -/
theorem utf8EncodeChar_of_scan {code length : Nat} (h : scan b rest = .char code length left) :
    String.utf8EncodeChar (.ofNat code) ++ left = b :: rest := by
  rw [scan] at h
  by_cases hascii : b.toNat < 0x80
  · rw [if_pos hascii] at h
    obtain ⟨rfl, -, rfl⟩ := Scan.char.inj h
    rw [utf8EncodeChar_one hascii, UInt8.ofNat_toNat]
    rfl
  · rw [if_neg hascii] at h
    cases hlead : lead? b.toNat with
    | none =>
      rw [hlead] at h
      cases h
    | some l =>
      rw [hlead] at h
      obtain ⟨hb, hb', rfl⟩ | ⟨hb, hb', rfl⟩ | ⟨hb, hb', rfl⟩ := lead?_cases hlead
      · obtain ⟨c, bs, rfl, hc, hc', h⟩ := scanTail_succ_cases (n := 0) h
        obtain ⟨hcode, hleft⟩ := scanTail_zero_cases h
        rw [utf8EncodeChar_two hcode hb hb' hc hc', hleft]
        rfl
      · obtain ⟨c, bs, rfl, hc, hc', h⟩ := scanTail_succ_cases (n := 1) h
        obtain ⟨d, bs, rfl, hd, hd', h⟩ := scanTail_succ_cases (n := 0) h
        obtain ⟨hcode, hleft⟩ := scanTail_zero_cases h
        rw [utf8EncodeChar_three hcode hb hb' hc hc' hd hd', hleft]
        rfl
      · obtain ⟨c, bs, rfl, hc, hc', h⟩ := scanTail_succ_cases (n := 2) h
        obtain ⟨d, bs, rfl, hd, hd', h⟩ := scanTail_succ_cases (n := 1) h
        obtain ⟨e, bs, rfl, he, he', h⟩ := scanTail_succ_cases (n := 0) h
        obtain ⟨hcode, hleft⟩ := scanTail_zero_cases h
        rw [utf8EncodeChar_four hcode hb hb' hc hc' hd hd' he he', hleft]
        rfl

/-! ## A whole text -/

/-- What is decoded of some bytes without a fault comes after what was found before. -/
theorem encode_of_decodeFrom {more : Bool} (bs : List UInt8) (found t : List Char) (offset : Nat)
    (h : decodeFrom more offset found bs = (t, .complete)) :
    ∃ s, t = found.reverse ++ s ∧ encode s = bs := by
  fun_induction decodeFrom more offset found bs with
  | case1 offset found =>
    obtain ⟨rfl, -⟩ := Prod.mk.inj h
    exact ⟨[], (List.append_nil _).symm, rfl⟩
  | case2 offset found b rest code length left hscan _ ih =>
    obtain ⟨s, rfl, hs⟩ := ih h
    refine ⟨.ofNat code :: s, ?_, ?_⟩
    · rw [List.reverse_cons, List.append_assoc]
      rfl
    · rw [encode, List.flatMap_cons, ← utf8EncodeChar_of_scan hscan, ← hs]
      rfl
  | case3 => cases (Prod.mk.inj h).2
  | case4 => cases (Prod.mk.inj h).2
  | case5 => cases (Prod.mk.inj h).2

/-- **The bytes that can be decoded are those of a text.** -/
theorem decode_eq_ok_iff {bs : List UInt8} {t : List Char} : decode bs = .ok t ↔ bs = encode t := by
  constructor
  · intro h
    rw [decode] at h
    split at h
    · next t' hdecode =>
      obtain rfl := Except.ok.inj h
      obtain ⟨s, rfl, hs⟩ := encode_of_decodeFrom bs [] t' 0 hdecode
      exact hs.symm
    · cases h
    · cases h
  · rintro rfl
    exact decode_encode t

/-- Text that differs has different bytes. -/
theorem encode_inj {s t : List Char} : encode s = encode t ↔ s = t := by
  constructor
  · intro h
    exact Except.ok.inj ((decode_encode s).symm.trans (h ▸ decode_encode t))
  · rintro rfl
    rfl

end CellWidth.Text.Utf8
