import CellWidth.Interval
import CellWidth.Text.Hexadecimal
import CellWidth.Unicode.Name

/-!
# Listings of tables

A table as source text: a heading, one line for each interval with the names of its ends as a comment,
and a closing bracket. An end that is no code point has no name, and then there is no listing.
-/

namespace CellWidth.Generator.Listing

open CellWidth.Text

/-- A code point as the listing writes it. -/
def number (c : Int) : String :=
  "0x" ++ String.ofList (Hexadecimal.write .lower 4 c)

/-- The first line of the table called `name`. -/
def heading (name : String) : String :=
  name ++ ": Tuple[Interval, ...] = ("

/-- The line of an interval. -/
def row (i : Interval) : Except Unicode.LabelError String :=
  match Unicode.label i.first with
  | .error e => .error e
  | .ok first =>
    match Unicode.label i.last with
    | .error e => .error e
    | .ok last =>
      .ok ("    Interval(" ++ number i.first ++ ", " ++ number i.last ++ "),  # " ++ first ++ " to "
        ++ last)

/-- The lines of intervals, or the fault of the first end that is no code point. -/
def rows : List Interval → Except Unicode.LabelError (List String)
  | [] => .ok []
  | i :: rest =>
    match row i with
    | .error e => .error e
    | .ok line =>
      match rows rest with
      | .error e => .error e
      | .ok lines => .ok (line :: lines)

/-- Lines as a text, each with its end. -/
def joinLines (lines : List String) : String :=
  String.join (lines.map (· ++ "\n"))

/-- The listing of the table called `name`. -/
def render (name : String) (is : List Interval) : Except Unicode.LabelError String :=
  match rows is with
  | .error e => .error e
  | .ok lines => .ok (joinLines (heading name :: lines ++ [")"]))

end CellWidth.Generator.Listing
