import CellWidth.Text.Hexadecimal

/-!
# UTF-8

Encoding, and decoding with the cause of a failure. Only the shortest form of a character counts, and
no surrogate.

A text can be decoded whole, or piece by piece as it is read from a file. Then a character that a
piece leaves unfinished is held until the next piece, positions count from the first byte in hand, and
a piece with a fault gives no text at all.
-/

namespace CellWidth.Text.Utf8

/-- The bytes of a text. -/
def encode (t : List Char) : List UInt8 :=
  t.flatMap String.utf8EncodeChar

/-! ## Faults -/

/-- What is wrong with some bytes. -/
inductive Reason where
  | badStart
  | badContinuation
  | truncated
deriving DecidableEq

/-- The wording of a reason. -/
def Reason.text : Reason → String
  | badStart => "invalid start byte"
  | badContinuation => "invalid continuation byte"
  | truncated => "unexpected end of data"

/-- Bytes that are no character: where they begin, how many there are and the first of them. -/
structure Fault where
  offset : Nat
  length : Nat
  first : UInt8
  reason : Reason
deriving DecidableEq

/-- The wording of a fault. One byte is shown, of more only the positions. -/
def Fault.message (f : Fault) : String :=
  let place :=
    if f.length = 1 then
      "byte 0x" ++ String.ofList (Hexadecimal.write .lower 2 f.first.toNat) ++ " in position "
        ++ toString f.offset
    else
      "bytes in position " ++ toString f.offset ++ "-" ++ toString (f.offset + f.length - 1)
  "'utf-8' codec can't decode " ++ place ++ ": " ++ f.reason.text

/-! ## One character -/

/-- What the first byte of a character of several bytes announces: the bytes that follow it, its own
bits of the code point, and the range of the byte after it. -/
structure Lead where
  count : Nat
  bits : Nat
  low : Nat
  high : Nat

/-- The announcement of a first byte from 0x80 on. The narrower ranges leave out longer forms of
smaller code points, surrogates, and what lies beyond the code space. -/
def lead? (b : Nat) : Option Lead :=
  if b < 0xC2 then none
  else if b < 0xE0 then some ⟨1, b - 0xC0, 0x80, 0xBF⟩
  else if b = 0xE0 then some ⟨2, 0, 0xA0, 0xBF⟩
  else if b = 0xED then some ⟨2, 0xD, 0x80, 0x9F⟩
  else if b < 0xF0 then some ⟨2, b - 0xE0, 0x80, 0xBF⟩
  else if b = 0xF0 then some ⟨3, 0, 0x90, 0xBF⟩
  else if b < 0xF4 then some ⟨3, b - 0xF0, 0x80, 0xBF⟩
  else if b = 0xF4 then some ⟨3, 4, 0x80, 0x8F⟩
  else none

/-- The outcome of reading one character. -/
inductive Scan where
  /-- A character of so many bytes, and the bytes after it. -/
  | char (code : Nat) (length : Nat) (rest : List UInt8)
  /-- So many bytes are no character. -/
  | fault (length : Nat) (reason : Reason)
  /-- The bytes end within a character. -/
  | unfinished

/-- Reads the `n` bytes that are missing from a character. The first of them lies from `low` to
`high`; `taken` bytes have been read. -/
def scanTail (low high : Nat) (n value taken : Nat) (bs : List UInt8) : Scan :=
  match n, bs with
  | 0, rest => .char value taken rest
  | _ + 1, [] => .unfinished
  | n + 1, b :: rest =>
    if low ≤ b.toNat ∧ b.toNat ≤ high then
      scanTail 0x80 0xBF n (64 * value + (b.toNat - 0x80)) (taken + 1) rest
    else .fault taken .badContinuation

/-- Reads the character whose first byte is `b`. -/
def scan (b : UInt8) (rest : List UInt8) : Scan :=
  if b.toNat < 0x80 then .char b.toNat 1 rest
  else match lead? b.toNat with
    | none => .fault 1 .badStart
    | some l => scanTail l.low l.high l.count l.bits 1 rest

theorem scanTail_length {low high n value taken code length : Nat} {bs rest : List UInt8}
    (h : scanTail low high n value taken bs = .char code length rest) : rest.length ≤ bs.length := by
  fun_induction scanTail low high n value taken bs with
  | case1 => simp_all
  | case2 => simp at h
  | case3 low high value taken n b r hb ih => have := ih h; simp only [List.length_cons]; omega
  | case4 => simp at h

theorem scan_length {b : UInt8} {bs rest : List UInt8} {code length : Nat}
    (h : scan b bs = .char code length rest) : rest.length ≤ bs.length := by
  unfold scan at h
  split at h
  · simp only [Scan.char.injEq] at h
    exact Nat.le_of_eq (congrArg List.length h.2.2.symm)
  · split at h
    · simp at h
    · exact scanTail_length h

/-! ## Many characters -/

/-- How the decoding of some bytes ends. -/
inductive Ending where
  | complete
  /-- The bytes that are left begin a character at the given position. -/
  | unfinished (offset : Nat) (left : List UInt8)
  | fault (f : Fault)

/-- Whether two bytes begin the form that a surrogate would have. -/
def isHalfSurrogate : List UInt8 → Bool
  | [a, b] => a == 0xED && 0xA0 ≤ b && b ≤ 0xBF
  | _ => false

/-- Decodes bytes that begin at a position, after the characters found so far in reverse. Where more
bytes are to come (`more`), the beginning of a surrogate is only judged with its third byte. -/
def decodeFrom (more : Bool) (offset : Nat) (found : List Char) (bs : List UInt8) :
    List Char × Ending :=
  match bs with
  | [] => (found.reverse, .complete)
  | b :: rest =>
    match h : scan b rest with
    | .char code length left =>
      have := scan_length h
      decodeFrom more (offset + length) (Char.ofNat code :: found) left
    | .unfinished => (found.reverse, .unfinished offset (b :: rest))
    | .fault length reason =>
      if more && isHalfSurrogate (b :: rest) then
        (found.reverse, .unfinished offset (b :: rest))
      else (found.reverse, .fault ⟨offset, length, b, reason⟩)
termination_by bs.length

/-- The fault of a character that the end of the text cuts short. -/
def truncation (offset : Nat) (left : List UInt8) : Fault :=
  ⟨offset, left.length, left.headD 0, .truncated⟩

/-- Decodes a whole text. -/
def decode (bs : List UInt8) : Except Fault (List Char) :=
  match decodeFrom false 0 [] bs with
  | (t, .complete) => .ok t
  | (_, .unfinished offset left) => .error (truncation offset left)
  | (_, .fault f) => .error f

/-! ## Reading piece by piece -/

/-- The bytes that are read at once. -/
def pieceSize : Nat := 8192

/-- Cuts bytes into pieces. -/
def pieces : List UInt8 → List (List UInt8)
  | [] => []
  | b :: rest => (b :: rest).take pieceSize :: pieces ((b :: rest).drop pieceSize)
termination_by bs => bs.length
decreasing_by
  simp only [List.length_drop, List.length_cons, pieceSize]
  omega

/-- Decodes pieces one after the other, with `held` bytes in hand. The result is the text up to the
first piece with a fault, and the fault. -/
def readPieces (held : List UInt8) : List (List UInt8) → List Char × Option Fault
  | [] =>
    match decode held with
    | .ok t => (t, none)
    | .error f => ([], some f)
  | piece :: rest =>
    match decodeFrom true 0 [] (held ++ piece) with
    | (t, .complete) =>
      let later := readPieces [] rest
      (t ++ later.1, later.2)
    | (t, .unfinished _ left) =>
      let later := readPieces left rest
      (t ++ later.1, later.2)
    | (_, .fault f) => ([], some f)

/-- Decodes a file as it is read. -/
def read (bs : List UInt8) : List Char × Option Fault :=
  readPieces [] (pieces bs)

end CellWidth.Text.Utf8
