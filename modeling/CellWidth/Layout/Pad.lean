import CellWidth.Width.Sequence

/-!
# Filling a text up to a width

A text that is too narrow gets copies of a fill beside it. How many copies there are follows from the
cells of the first character of the fill; a fill whose first character has no cell is replaced by a
space. Of an odd number of copies around a centred text the right side has one more.

A text is made of the copies in several steps, and each of them makes a new text. There is a limit to
what can be counted, and one to what there is room for. A step that would pass either is refused, and with
it the whole filling. How much room there is for each of the new texts is given with the call.
-/

namespace CellWidth.Layout

/-- Where the text stands among the fill. -/
inductive Align where
  | left
  | right
  | center
deriving DecidableEq

namespace Align

/-- Reads the name of an alignment. -/
def parse? (name : String) : Option Align :=
  if name = "left" then some left
  else if name = "right" then some right
  else if name = "center" then some center
  else none

end Align

/-- Why a text is not filled up. -/
inductive PadError where
  /-- There is no alignment of this name. -/
  | align (name : String)
  /-- The copies of the fill, or the characters of a text to be made, are more than can be counted. -/
  | tooMany
  /-- There is no room for a text to be made. -/
  | tooLong
deriving DecidableEq

/-- The wording of a refusal; want of room has none. -/
def PadError.message : PadError → String
  | align name => "Invalid align value: " ++ name ++ ". Must be 'left', 'right', or 'center'"
  | tooMany => "the text would be longer than can be counted"
  | tooLong => ""

/-- The greatest number that counts copies or characters. -/
def maxCount : Nat := 0x7fffffffffffffff

/-- How many characters there is room for, at each step of a filling. -/
structure Room where
  /-- For the copies before the text. -/
  before : Nat
  /-- For these and the text. -/
  front : Nat
  /-- For the copies behind the text. -/
  after : Nat
  /-- For all of it. -/
  whole : Nat

/-- Makes room for a new text of so many characters. -/
def reserve (room length : Nat) : Except PadError Unit :=
  if maxCount < length then .error .tooMany
  else if room < length then .error .tooLong
  else .ok ()

/-- So many copies of a text. For one copy no new text is made, nor for none. -/
def copies (room n : Nat) (t : List Char) : Except PadError (List Char) :=
  if maxCount < n then .error .tooMany
  else if n = 0 then .ok []
  else if n = 1 then .ok t
  else (reserve room (n * t.length)).map fun _ => (List.replicate n t).flatten

/-- One text behind another. Where either is empty, no new text is made. -/
def joined (room : Nat) (s t : List Char) : Except PadError (List Char) :=
  if s.isEmpty then .ok t
  else if t.isEmpty then .ok s
  else (reserve room (s.length + t.length)).map fun _ => s ++ t

/-- The cells of the first character of a fill. -/
def headCells (m : Mode) (fill : List Char) : Nat :=
  ((Symbol.text fill).width m).getD 0

/-- The fill in use and its cells: a fill that would not advance is replaced by a space. -/
def advancing (m : Mode) (fill : List Char) : List Char × Nat :=
  if 0 < headCells m fill then (fill, headCells m fill) else ([' '], 1)

/-- A text with `n` copies of a fill around it. -/
def around (room : Room) (align : Align) (n : Nat) (fill t : List Char) :
    Except PadError (List Char) :=
  match align with
  | .left => do joined room.whole t (← copies room.after n fill)
  | .right => do joined room.front (← copies room.before n fill) t
  | .center => do
    let before ← copies room.before (n / 2) fill
    let front ← joined room.front before t
    joined room.whole front (← copies room.after (n - n / 2) fill)

/-- The text, filled up where it is narrower than `width` cells. -/
def pad (room : Room) (m : Mode) (t : List Char) (width : Int) (align : Align)
    (fill : List Char) : Except PadError (List Char) :=
  if width ≤ (textWidth m t : Int) then .ok t
  else
    let used := advancing m fill
    around room align ((width - textWidth m t).toNat / used.2) used.1 t

end CellWidth.Layout
