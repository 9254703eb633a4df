import CellWidth.Text.Blank
import CellWidth.Text.DecimalDigit

/-!
# Hexadecimal numbers

Writing an integer in base sixteen, and reading one. Written numbers are padded with zeros to a
number of places, of which the minus sign takes one.

The reader is liberal: it accepts white space around the number, a sign, `0x`, either case of letter,
the decimal digits of every script, and single underscores between digits or right after `0x`.
-/

namespace CellWidth.Text.Hexadecimal

/-! ## Writing -/

inductive LetterCase where
  | lower
  | upper
deriving DecidableEq

/-- The digit of value `d`, for `d` below sixteen. -/
def digitChar (k : LetterCase) (d : Nat) : Char :=
  if d < 10 then Char.ofNat (0x30 + d)
  else match k with
    | .lower => Char.ofNat (0x61 + (d - 10))
    | .upper => Char.ofNat (0x41 + (d - 10))

/-- The digits of a number, the most significant first; zero has one digit. -/
def digits (n : Nat) : List Nat :=
  if n < 16 then [n] else digits (n / 16) ++ [n % 16]
termination_by n

/-- The number in at least so many places. -/
def write (k : LetterCase) (places : Nat) (n : Int) : List Char :=
  let body := (digits n.natAbs).map (digitChar k)
  if n < 0 then '-' :: body.leftpad (places - 1) '0' else body.leftpad places '0'

/-! ## Reading -/

/-- The value of an ASCII digit of base sixteen. -/
def digitValue (c : Char) : Option Nat :=
  let n := c.toNat
  if 0x30 ≤ n && n ≤ 0x39 then some (n - 0x30)
  else if 0x61 ≤ n && n ≤ 0x66 then some (n - 0x61 + 10)
  else if 0x41 ≤ n && n ≤ 0x46 then some (n - 0x41 + 10)
  else none

/-- The ASCII character that stands for `c` in a number: a decimal digit of any script becomes the
ASCII digit, a white space outside ASCII becomes a space, and what no number holds becomes a question
mark. -/
def plain (c : Char) : Char :=
  if c.toNat < 0x7F then c
  else if isBlank c.toNat then ' '
  else match decimalValue c.toNat with
    | some d => Char.ofNat (0x30 + d)
    | none => '?'

/-- The ASCII characters that may stand around a number. -/
def isMargin (c : Char) : Bool :=
  c == ' ' || (0x09 ≤ c.toNat && c.toNat ≤ 0x0D)

/-- Reads the digits that follow a number read so far; an underscore has a digit on its right. -/
def readMore (value : Nat) : List Char → Option Nat
  | [] => some value
  | '_' :: c :: rest =>
    match digitValue c with
    | none => none
    | some d => readMore (16 * value + d) rest
  | c :: rest =>
    match digitValue c with
    | none => none
    | some d => readMore (16 * value + d) rest

/-- Reads one digit or more. -/
def readDigits : List Char → Option Nat
  | [] => none
  | c :: rest =>
    match digitValue c with
    | none => none
    | some d => readMore d rest

/-- Reads a number without its sign. One underscore may follow the mark `0x`. -/
def readUnsigned : List Char → Option Nat
  | '0' :: 'x' :: '_' :: rest => readDigits rest
  | '0' :: 'X' :: '_' :: rest => readDigits rest
  | '0' :: 'x' :: rest => readDigits rest
  | '0' :: 'X' :: rest => readDigits rest
  | rest => readDigits rest

/-- Reads a number with at most one sign. -/
def readSigned : List Char → Option Int
  | '-' :: rest => (readUnsigned rest).map fun n => -(n : Int)
  | '+' :: rest => (readUnsigned rest).map fun n => (n : Int)
  | rest => (readUnsigned rest).map fun n => (n : Int)

/-- Reads a whole text as one number. -/
def read? (t : List Char) : Option Int :=
  readSigned (trimBy isMargin (t.map plain))

end CellWidth.Text.Hexadecimal
