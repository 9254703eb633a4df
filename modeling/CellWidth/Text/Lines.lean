import CellWidth.Text.Utf8

/-!
# Lines

A line of a file ends with a line feed, a carriage return, or the pair of them; a line of a text that is
given as it is ends with a line feed only. The lines here are without their ends.
-/

namespace CellWidth.Text.Lines

/-- Cuts a text into the lines that have an end and the rest after the last of them. The line so far
and the lines so far are given in reverse. -/
def cutOnto (line : List Char) (found : List (List Char)) :
    List Char → List (List Char) × List Char
  | [] => (found.reverse, line.reverse)
  | '\r' :: '\n' :: rest => cutOnto [] (line.reverse :: found) rest
  | c :: rest =>
    if c = '\n' ∨ c = '\r' then cutOnto [] (line.reverse :: found) rest
    else cutOnto (c :: line) found rest

/-- The lines of a text; the last one may lack its end. -/
def all (t : List Char) : List (List Char) :=
  let (ended, rest) := cutOnto [] [] t
  if rest = [] then ended else ended ++ [rest]

/-- The lines of a text that are known to have ended, where the text breaks off. A carriage return at
the break may be half of a pair and ends nothing. -/
def ended (t : List Char) : List (List Char) :=
  let whole := if t.getLast? = some '\r' then t.dropLast else t
  (cutOnto [] [] whole).1

/-- The lines of a text in which only a line feed ends a line. -/
def atFeeds : List Char → List (List Char)
  | [] => []
  | c :: rest =>
    if c = '\n' then [] :: atFeeds rest
    else match atFeeds rest with
      | [] => [[c]]
      | line :: later => (c :: line) :: later

/-- The lines of a file as it is read: the lines before the first fault, and the fault. -/
def read (bs : List UInt8) : List (List Char) × Option Utf8.Fault :=
  match Utf8.read bs with
  | (t, none) => (all t, none)
  | (t, some f) => (ended t, some f)

end CellWidth.Text.Lines
