/-!
# Blanks

The white space of Unicode, and trimming. Zero-width spaces and the byte order mark are not blank.
-/

namespace CellWidth.Text

/-- Whether a code point is white space: the controls for tab to carriage return and for the four
separators, the space, U+0085, and the separators of Unicode. -/
def isBlank (c : Nat) : Bool :=
  (0x09 ≤ c && c ≤ 0x0D) || (0x1C ≤ c && c ≤ 0x20) || c == 0x85 || c == 0xA0 || c == 0x1680
    || (0x2000 ≤ c && c ≤ 0x200A) || c == 0x2028 || c == 0x2029 || c == 0x202F || c == 0x205F
    || c == 0x3000

/-- The code points of a text. -/
def points (s : String) : List Nat :=
  s.toList.map Char.toNat

section Trim

variable {α : Type} (p : α → Bool)

/-- Drops the last elements that satisfy `p`. -/
def trimEndBy (l : List α) : List α :=
  (l.reverse.dropWhile p).reverse

/-- Drops the first and the last elements that satisfy `p`. -/
def trimBy (l : List α) : List α :=
  trimEndBy p (l.dropWhile p)

end Trim

/-- A text without the blanks around it. -/
def trim (t : List Char) : List Char :=
  trimBy (fun c => isBlank c.toNat) t

end CellWidth.Text
