import CellWidth.Json.Display
import CellWidth.Text.Blank

/-!
# Switches in words

A setting that is on or off is a boolean, or one of eight words in any case of letters and with any
white space around it. Numbers are not taken for booleans.
-/

namespace CellWidth.Settings

open CellWidth.Text

/-- The words for on. -/
def onWords : List String := ["1", "true", "yes", "on"]

/-- The words for off. -/
def offWords : List String := ["0", "false", "no", "off"]

/-- The lower case of a code point, as far as letters of ASCII come up. Outside ASCII only two
characters have one in their lower case: I WITH DOT ABOVE, which becomes `i` and a dot, and KELVIN
SIGN. -/
def lowerCase (c : Nat) : List Nat :=
  if 0x41 ≤ c ∧ c ≤ 0x5A then [c + 0x20]
  else if c = 0x130 then [0x69, 0x307]
  else if c = 0x212A then [0x6B]
  else [c]

/-- What a word in lower case says. -/
def wordValue? (w : List Nat) : Option Bool :=
  if (onWords.map points).contains w then some true
  else if (offWords.map points).contains w then some false
  else none

/-- What a text says, without regard to case and to the blanks around it. -/
def readWord? (t : List Nat) : Option Bool :=
  wordValue? ((trimBy isBlank t).flatMap lowerCase)

/-- What a value says. -/
def readSwitch? : Json.Value → Option Bool
  | .bool b => some b
  | .string s => readWord? s
  | _ => none

/-- A value that says neither on nor off. -/
structure NotASwitch where
  value : Json.Value

/-- The wording of a refusal. -/
def NotASwitch.message (r : NotASwitch) : String :=
  "Invalid boolean value: " ++ String.ofList r.value.display

/-- Reads a switch, or refuses the value. -/
def readSwitch (v : Json.Value) : Except NotASwitch Bool :=
  match readSwitch? v with
  | some b => .ok b
  | none => .error ⟨v⟩

end CellWidth.Settings
