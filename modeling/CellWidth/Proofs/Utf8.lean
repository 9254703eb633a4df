import CellWidth.Text.Utf8

/-!
# Decoding what has been encoded

Every text comes back from its bytes. The decoder reads a character from its first byte, which says how
many follow and in which range the next one lies; the encoder chooses the first byte by the size of the
code point. So there is a lemma for each number of bytes, and the ranges are where the two sides could
differ: the decoder refuses a longer form than is needed, the form of a surrogate, and what lies beyond
the code space, and the encoder writes none of these.

* `Utf8.scan_utf8EncodeChar` — one character
* `Utf8.decode_encode` — a whole text
-/

namespace CellWidth.Text.Utf8

variable {v low high : Nat} {rest : List UInt8}

theorem toNat_ofNat {n : Nat} (h : n < 0x100) : (UInt8.ofNat n).toNat = n := by
  rw [UInt8.toNat_ofNat']
  exact Nat.mod_eq_of_lt h

/-! ## First bytes -/

/-- A character of one byte is the byte. -/
theorem scan_of_ascii (h : v < 0x80) : scan (.ofNat v) rest = .char v 1 rest := by
  have hv : (UInt8.ofNat v).toNat = v := toNat_ofNat (by omega)
  rw [scan, hv, if_pos h]

/-- Any other first byte says how many follow, and where the next one lies. -/
theorem scan_of_lead {b count bits : Nat} (h : 0x80 ≤ b) (h' : b < 0x100)
    (hlead : lead? b = some ⟨count, bits, low, high⟩) :
    scan (.ofNat b) rest = scanTail low high count bits 1 rest := by
  rw [scan, toNat_ofNat h', if_neg (Nat.not_lt.mpr h), hlead]

theorem lead?_two {b : Nat} (h : 0xC2 ≤ b) (h' : b < 0xE0) :
    lead? b = some ⟨1, b - 0xC0, 0x80, 0xBF⟩ := by
  rw [lead?, if_neg (Nat.not_lt.mpr h), if_pos h']

/-- The first byte of a character of three bytes. The second byte is bounded from below where a shorter
form would do, and from above where a surrogate would follow. -/
theorem lead?_three {b : Nat} (h : 0xE0 ≤ b) (h' : b < 0xF0) :
    lead? b = some ⟨2, b - 0xE0, if b = 0xE0 then 0xA0 else 0x80, if b = 0xED then 0x9F else 0xBF⟩ := by
  rw [lead?, if_neg (by omega), if_neg (by omega)]
  by_cases hlow : b = 0xE0
  · subst hlow
    rfl
  · by_cases hhigh : b = 0xED
    · subst hhigh
      rfl
    · rw [if_neg hlow, if_neg hhigh, if_pos h', if_neg hlow, if_neg hhigh]

/-- The first byte of a character of four bytes. The second byte is bounded from below where a shorter
form would do, and from above at the end of the code space. -/
theorem lead?_four {b : Nat} (h : 0xF0 ≤ b) (h' : b ≤ 0xF4) :
    lead? b = some ⟨3, b - 0xF0, if b = 0xF0 then 0x90 else 0x80, if b = 0xF4 then 0x8F else 0xBF⟩ := by
  obtain rfl | rfl | rfl | rfl | rfl : b = 0xF0 ∨ b = 0xF1 ∨ b = 0xF2 ∨ b = 0xF3 ∨ b = 0xF4 := by
    omega
  all_goals rfl

/-! ## The bytes after it -/

theorem scanTail_zero {taken : Nat} : scanTail low high 0 v taken rest = .char v taken rest := by
  rw [scanTail]

/-- A byte in range adds its six bits. -/
theorem scanTail_succ {n b taken : Nat} (h : low ≤ b) (h' : b ≤ high) (hhigh : high ≤ 0xBF) :
    scanTail low high (n + 1) v taken (.ofNat b :: rest) =
      scanTail 0x80 0xBF n (64 * v + (b - 0x80)) (taken + 1) rest := by
  have hb : (UInt8.ofNat b).toNat = b := toNat_ofNat (by omega)
  rw [scanTail, hb, if_pos ⟨h, h'⟩]

/-! ## One character -/

theorem scan_two (h : 0x80 ≤ v) (h' : v < 0x800) :
    scan (.ofNat (v / 64 % 32 + 192)) (.ofNat (v % 64 + 128) :: rest) = .char v 2 rest := by
  have hlead := lead?_two (b := v / 64 % 32 + 192) (by omega) (by omega)
  have hvalue : 64 * (v / 64 % 32 + 192 - 0xC0) + (v % 64 + 128 - 0x80) = v := by omega
  rw [scan_of_lead (by omega) (by omega) hlead, scanTail_succ (by omega) (by omega) (by omega),
    scanTail_zero, hvalue]

/-- A surrogate is left out: its second byte would be above the range. -/
theorem scan_three (h : 0x800 ≤ v) (h' : v < 0x10000) (hs : v < 0xD800 ∨ 0xDFFF < v) :
    scan (.ofNat (v / 4096 % 16 + 224))
      (.ofNat (v / 64 % 64 + 128) :: .ofNat (v % 64 + 128) :: rest) = .char v 3 rest := by
  have hlead := lead?_three (b := v / 4096 % 16 + 224) (by omega) (by omega)
  have hvalue : 64 * (64 * (v / 4096 % 16 + 224 - 0xE0) + (v / 64 % 64 + 128 - 0x80)) +
      (v % 64 + 128 - 0x80) = v := by omega
  rw [scan_of_lead (by omega) (by omega) hlead, scanTail_succ (by split <;> omega) (by split <;> omega)
    (by split <;> omega), scanTail_succ (by omega) (by omega) (by omega), scanTail_zero, hvalue]

theorem scan_four (h : 0x10000 ≤ v) (h' : v < 0x110000) :
    scan (.ofNat (v / 262144 % 8 + 240)) (.ofNat (v / 4096 % 64 + 128) ::
      .ofNat (v / 64 % 64 + 128) :: .ofNat (v % 64 + 128) :: rest) = .char v 4 rest := by
  have hlead := lead?_four (b := v / 262144 % 8 + 240) (by omega) (by omega)
  have hvalue : 64 * (64 * (64 * (v / 262144 % 8 + 240 - 0xF0) + (v / 4096 % 64 + 128 - 0x80)) +
      (v / 64 % 64 + 128 - 0x80)) + (v % 64 + 128 - 0x80) = v := by omega
  rw [scan_of_lead (by omega) (by omega) hlead, scanTail_succ (by split <;> omega) (by split <;> omega)
    (by split <;> omega), scanTail_succ (by omega) (by omega) (by omega),
    scanTail_succ (by omega) (by omega) (by omega), scanTail_zero, hvalue]

/-- A code point of the code space is no surrogate. -/
theorem toNat_bounds (c : Char) : c.toNat < 0x110000 ∧ (c.toNat < 0xD800 ∨ 0xDFFF < c.toNat) := by
  have hvalid := c.valid
  unfold UInt32.isValidChar Nat.isValidChar at hvalid
  rw [Char.toNat_val] at hvalid
  omega

/-- **A character is read from its bytes, whatever follows them.** -/
theorem scan_utf8EncodeChar (c : Char) (rest : List UInt8) :
    ∃ b bs length, String.utf8EncodeChar c = b :: bs ∧
      scan b (bs ++ rest) = .char c.toNat length rest := by
  obtain ⟨hmax, hsurrogate⟩ := toNat_bounds c
  unfold String.utf8EncodeChar
  simp only [Char.toNat_val]
  -- The writer asks for the length by the same bounds as the reader asks for the first byte.
  split
  · exact ⟨_, _, 1, rfl, scan_of_ascii (by omega)⟩
  · split
    · exact ⟨_, _, 2, rfl, scan_two (by omega) (by omega)⟩
    · split
      · exact ⟨_, _, 3, rfl, scan_three (by omega) (by omega) hsurrogate⟩
      · exact ⟨_, _, 4, rfl, scan_four (by omega) hmax⟩

/-! ## A whole text -/

/-- One character is taken off the bytes. -/
theorem decodeFrom_of_char {more : Bool} {offset code length : Nat} {found : List Char} {b : UInt8}
    {left : List UInt8} (h : scan b rest = .char code length left) :
    decodeFrom more offset found (b :: rest) =
      decodeFrom more (offset + length) (Char.ofNat code :: found) left := by
  rw [decodeFrom]
  split
  · next heq =>
    obtain ⟨rfl, rfl, rfl⟩ := Scan.char.inj (h.symm.trans heq)
    rfl
  · next heq => exact absurd (h.symm.trans heq) (by simp)
  · next heq => exact absurd (h.symm.trans heq) (by simp)

/-- So are all, and nothing is left. -/
theorem decodeFrom_encode {more : Bool} : ∀ (t found : List Char) (offset : Nat),
    decodeFrom more offset found (encode t) = (found.reverse ++ t, .complete)
  | [], found, offset => by
    rw [show encode [] = [] from rfl, decodeFrom, List.append_nil]
  | c :: t, found, offset => by
    obtain ⟨b, bs, length, hbytes, hscan⟩ := scan_utf8EncodeChar c (encode t)
    have hencode : encode (c :: t) = b :: (bs ++ encode t) := by
      rw [encode, List.flatMap_cons, hbytes]
      rfl
    rw [hencode, decodeFrom_of_char hscan, decodeFrom_encode t, Char.ofNat_toNat, List.reverse_cons,
      List.append_assoc]
    rfl

/-- **Every text comes back from its bytes.** -/
theorem decode_encode (t : List Char) : decode (encode t) = .ok t := by
  rw [decode, decodeFrom_encode]
  rfl

end CellWidth.Text.Utf8
