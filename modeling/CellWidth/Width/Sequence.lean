import CellWidth.Width

/-!
# The width of a sequence

A sequence is measured up to its terminator and at most for a given number of elements. The measure
is strict: one control among the elements measured leaves the whole without a width.

An element names a code point, either as an integer or as the first character of a text. Code point
zero ends the sequence, and so does a text without a first character. The terminator itself is within
the limit or not at all: it is not measured.
-/

namespace CellWidth

/-- An element of a sequence. -/
inductive Symbol where
  | point (c : Int)
  /-- A text of Unicode scalar values: it has no surrogates, which can be named as integers. -/
  | text (t : List Char)
deriving DecidableEq

namespace Symbol

/-- The code point that an element names. -/
def point? : Symbol → Option Int
  | point c => some c
  | text [] => none
  | text (c :: _) => some c.toNat

/-- The width of an element; a text without characters takes no cell. -/
def width (m : Mode) (s : Symbol) : Option Nat :=
  match s.point? with
  | none => some 0
  | some c => CellWidth.width m c

/-- Whether an element takes two cells. -/
def isWide (m : Mode) (s : Symbol) : Bool :=
  s.width m == some 2

/-- Whether an element shows. -/
def isVisible (s : Symbol) : Bool :=
  0 < (s.width .standard).getD 0

/-- Whether an element ends the sequence. -/
def isTerminator (s : Symbol) : Bool :=
  match s.point? with
  | none => true
  | some c => c == 0

/-- The characters of a text as elements. -/
def ofText (t : List Char) : List Symbol :=
  t.map fun c => .point c.toNat

end Symbol

namespace Sequence

/-- Why a limit is refused. -/
inductive LimitError where
  | negative (n : Int)
  | tooLarge
deriving DecidableEq

/-- The wording of a refusal. -/
def LimitError.message : LimitError → String
  | negative n => "n must be non-negative, got " ++ toString n
  | tooLarge =>
    "Stop argument for islice() must be None or an integer: 0 <= x <= sys.maxsize."

/-- The largest limit. -/
def maxLimit : Int := 0x7fffffffffffffff

/-- The elements within a limit. -/
def limited (s : List Symbol) : Option Int → Except LimitError (List Symbol)
  | none => .ok s
  | some n =>
    if n < 0 then .error (.negative n)
    else if maxLimit < n then .error .tooLarge
    else .ok (s.take n.toNat)

/-- The sum of the widths up to the terminator; `none` where a control comes before it. -/
def total (m : Mode) : List Symbol → Option Nat
  | [] => some 0
  | s :: rest =>
    if s.isTerminator then some 0
    else match s.width m with
      | none => none
      | some w => (total m rest).map (w + ·)

/-- The width of a sequence within a limit, `none` where a control is measured. -/
def width (m : Mode) (s : List Symbol) (limit : Option Int) : Except LimitError (Option Nat) :=
  (limited s limit).map (total m)

end Sequence

/-! ## Text on a line -/

/-- The cells that a text fills. Here a control is passed over. The text is one of Unicode scalar values: a
surrogate that stands alone, which is no character, cannot be in it. -/
def textWidth (m : Mode) : List Char → Nat
  | [] => 0
  | c :: rest => cells m c.toNat + textWidth m rest

end CellWidth
