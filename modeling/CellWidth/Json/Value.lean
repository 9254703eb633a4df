import CellWidth.Number.Binary64

/-!
# JSON values

A document as data. Integers are exact, other numbers are binary. The members of an object stand in
the order of the text, also where a name comes twice: the last one counts (`member?`).

A text is a list of code points, since an escape can name one half of a surrogate pair, which no
`Char` is.
-/

namespace CellWidth.Json

/-- The code points of a string. -/
abbrev Text := List Nat

inductive Value where
  | null
  | bool (b : Bool)
  | integer (n : Int)
  | real (x : Binary64)
  | string (s : Text)
  | array (items : List Value)
  | object (members : List (Text × Value))

namespace Value

/-- Whether a value counts as true: all do but null, false, zeros and what is empty. -/
def isTruthy : Value → Bool
  | null => false
  | bool b => b
  | integer n => n != 0
  | real x => !x.isZero
  | string s => !s.isEmpty
  | array items => !items.isEmpty
  | object members => !members.isEmpty

end Value

/-- The value of the last member with a name. -/
def member? (name : Text) (members : List (Text × Value)) : Option Value :=
  members.reverse.lookup name

end CellWidth.Json
