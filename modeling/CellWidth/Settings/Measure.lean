import CellWidth.Layout.Pad
import CellWidth.Layout.Truncate
import CellWidth.Settings.Session

/-!
# Measuring with the settings

The functions on text, with the mode taken from the settings where the caller does not give it. A
function that measures more than once settles the mode first and gives it to every measurement, so that
all of them have the same mode and the settings are read at most once. Where no mode matters, they are
not read at all.
-/

namespace CellWidth.Settings

/-- The mode of a call. -/
def mode (limit : Nat) (legacy : Option Bool) : Action Mode := do
  return Mode.ofLegacy (← resolve limit legacy)

/-- The cells of a text; an empty one has none in either mode. -/
def textWidth (limit : Nat) (t : List Char) (legacy : Option Bool) : Action Nat :=
  if t.isEmpty then pure 0
  else do return CellWidth.textWidth (← mode limit legacy) t

/-- Whether a character takes two cells. -/
def isWide (limit : Nat) (s : Symbol) (legacy : Option Bool) : Action Bool := do
  return s.isWide (← mode limit legacy)

/-- A text, cut where it is too wide. -/
def truncate (limit : Nat) (t : List Char) (maxWidth : Int) (ellipsis : List Char)
    (legacy : Option Bool) : Action (List Char) := do
  let on ← resolve limit legacy
  let total ← textWidth limit t (some on)
  if (total : Int) ≤ maxWidth then return t
  let taken ← textWidth limit ellipsis (some on)
  if maxWidth ≤ (taken : Int) then return Layout.leading maxWidth ellipsis
  let m ← mode limit (some on)
  return Layout.fitting m (maxWidth - taken).toNat t ++ ellipsis

/-- A text, filled up where it is too narrow. The alignment is given by name, and a name that is none
is refused before the mode is settled. -/
def pad (limit : Nat) (room : Layout.Room) (t : List Char) (width : Int) (align : String)
    (fill : List Char) (legacy : Option Bool) : Action (Except Layout.PadError (List Char)) :=
  match Layout.Align.parse? align with
  | none => pure (.error (.align align))
  | some a => do
    let on ← resolve limit legacy
    let total ← textWidth limit t (some on)
    if width ≤ (total : Int) then return .ok t
    let m ← mode limit (some on)
    let used := Layout.advancing m fill
    return Layout.around room a ((width - total).toNat / used.2) used.1 t

end CellWidth.Settings
