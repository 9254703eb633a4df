import CellWidth.Interval.Table
import CellWidth.Text.Hexadecimal

/-!
# Flaws of a table

A table is fit for `Table.search` when it has an interval, no interval is reversed, and every interval
begins after the one before it ends. `Table.check` counts the intervals of such a table and otherwise
gives the first flaw; an interval that is reversed and out of order counts as reversed.
-/

namespace CellWidth

/-- What makes a table unfit for searching. -/
inductive Flaw where
  | empty
  /-- The interval at `index` ends before it begins. -/
  | reversed (index : Nat) (found : Interval)
  /-- The interval at `index` begins at `first`, no later than the one before it ends. -/
  | outOfOrder (index : Nat) (first : Int) (lastBefore : Int)
deriving DecidableEq

namespace Flaw

/-- An end of an interval as the messages show it. -/
def endText (c : Int) : String :=
  "0x" ++ String.ofList (Text.Hexadecimal.write .lower 4 c)

/-- The wording of a flaw in the table called `name`. -/
def message (name : String) : Flaw → String
  | empty => name ++ ": interval table is empty"
  | reversed index found =>
    name ++ "[" ++ toString index ++ "]: first " ++ endText found.first ++ " > last "
      ++ endText found.last
  | outOfOrder index first lastBefore =>
    name ++ "[" ++ toString index ++ "]: " ++ endText first ++ " does not follow "
      ++ endText lastBefore

end Flaw

namespace Table

/-- The first flaw of the intervals from index `index` on, after an interval that ends at
`lastBefore`. -/
def flawFrom (index : Nat) (lastBefore : Option Int) : List Interval → Option Flaw
  | [] => none
  | i :: rest =>
    if i.last < i.first then some (.reversed index i)
    else match lastBefore with
      | some last =>
        if i.first ≤ last then some (.outOfOrder index i.first last)
        else flawFrom (index + 1) (some i.last) rest
      | none => flawFrom (index + 1) (some i.last) rest

/-- The first flaw of a table. -/
def flaw? (t : Table) : Option Flaw :=
  if t.size = 0 then some .empty else flawFrom 0 none t.toList

/-- The number of intervals of a table without flaws. -/
def check (t : Table) : Except Flaw Nat :=
  match t.flaw? with
  | some f => .error f
  | none => .ok t.size

end Table

end CellWidth
