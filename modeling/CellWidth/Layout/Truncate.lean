import CellWidth.Width.Sequence

/-!
# Cutting a text to a width

A text that is too wide loses its end to an ellipsis. The part that stays is the longest that leaves
room for the ellipsis; characters without a cell stay with what comes before them. Where the ellipsis
alone takes all the room, it is cut itself, by characters and not by cells.
-/

namespace CellWidth.Layout

/-- The longest beginning of a text that fits into so many cells. -/
def fitting (m : Mode) (room : Nat) : List Char → List Char
  | [] => []
  | c :: rest =>
    if cells m c.toNat ≤ room then c :: fitting m (room - cells m c.toNat) rest else []

/-- The first `n` characters; a negative count leaves out that many at the end. -/
def leading (n : Int) (t : List Char) : List Char :=
  if 0 ≤ n then t.take n.toNat else t.take (t.length - n.natAbs)

/-- The text, cut where it is wider than `maxWidth` cells. -/
def truncate (m : Mode) (t : List Char) (maxWidth : Int) (ellipsis : List Char) : List Char :=
  if (textWidth m t : Int) ≤ maxWidth then t
  else if maxWidth ≤ (textWidth m ellipsis : Int) then leading maxWidth ellipsis
  else fitting m (maxWidth - textWidth m ellipsis).toNat t ++ ellipsis

/-- The usual ellipsis. -/
def dots : List Char := ['.', '.', '.']

end CellWidth.Layout
