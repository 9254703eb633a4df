import CellWidth.Generator.DataLine
import CellWidth.Interval.Merge

/-!
# Tables from the character database

A table of widths takes the intervals of the data lines with certain values, and merges them. Two
tables are made: marks and format characters have no width, wide and fullwidth characters have two
cells.
-/

namespace CellWidth.Generator

/-- What goes into a table: intervals from the start, and the intervals with certain values. -/
structure Selection where
  extra : List Interval
  values : List (List Char)

namespace Selection

/-- Nonspacing marks, enclosing marks and format characters, with ZERO WIDTH SPACE, which is none of
them. -/
def zeroWidth : Selection :=
  ⟨[.single 0x200B], [['M', 'n'], ['M', 'e'], ['C', 'f']]⟩

/-- Wide and fullwidth characters. -/
def wide : Selection :=
  ⟨[], [['W'], ['F']]⟩

/-- The intervals of the data lines that are selected, in the order of the lines, or the refusal of
the first line that cannot be read. -/
def pick (sel : Selection) : List (List Char) → Except DataLine.Refusal (List Interval)
  | [] => .ok []
  | line :: rest =>
    match DataLine.read line with
    | .error r => .error r
    | .ok none => sel.pick rest
    | .ok (some d) =>
      match sel.pick rest with
      | .error r => .error r
      | .ok is => .ok (if sel.values.contains d.value then d.interval :: is else is)

/-- The table made from the lines of a file. -/
def table (sel : Selection) (lines : List (List Char)) :
    Except DataLine.Refusal (List Interval) :=
  match sel.pick lines with
  | .error r => .error r
  | .ok is => .ok (Interval.merge (sel.extra ++ is))

end Selection

end CellWidth.Generator
