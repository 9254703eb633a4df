import CellWidth.Unicode.Wide
import CellWidth.Unicode.ZeroWidth

/-!
# The width of a code point

How many cells of a terminal a code point takes: none, one or two. A control has no width at all,
which is `none` and not zero.

There are two modes. The standard mode follows the Unicode tables. The legacy mode is for text from
the old double-byte character sets of East Asia: there every graphic character outside ASCII takes
two cells, apart from a few that those sets held twice.
-/

namespace CellWidth

/-- Which rules give a character its width. -/
inductive Mode where
  | standard
  | legacy
deriving DecidableEq

namespace Mode

/-- The legacy mode where the switch is on. -/
def ofLegacy (on : Bool) : Mode :=
  if on then legacy else standard

end Mode

/-- The width in the standard mode. Code points below U+0300 are answered without the tables, so SOFT
HYPHEN has a cell; the medial vowels and final consonants of Hangul combine with the initial before
them. -/
def standardWidth (c : Int) : Option Nat :=
  if c < 0x300 then
    if c = 0 then some 0
    else if c < 0x20 ∨ (0x7F ≤ c ∧ c < 0xA0) then none
    else some 1
  else if Unicode.zeroWidth.search c then some 0
  else if c < 0x1100 then some 1
  else if 0x1160 ≤ c ∧ c ≤ 0x11FF then some 0
  else if Unicode.wide.search c then some 2
  else some 1

/-- The code points that the legacy mode widens, if they have one cell: those from U+00A1 up to the
halfwidth forms, without WON SIGN. -/
def Widens (c : Int) : Prop :=
  0xA1 ≤ c ∧ c < 0xFF61 ∧ c ≠ 0x20A9

instance (c : Int) : Decidable (Widens c) :=
  inferInstanceAs (Decidable (0xA1 ≤ c ∧ c < 0xFF61 ∧ c ≠ 0x20A9))

/-- The width of a code point, `none` for a control. -/
def width : Mode → Int → Option Nat
  | .standard, c => standardWidth c
  | .legacy, c =>
    if standardWidth c = some 1 ∧ Widens c then some 2 else standardWidth c

/-- The cells that a code point fills; a control fills none. -/
def cells (m : Mode) (c : Int) : Nat :=
  (width m c).getD 0

/-- Whether a code point takes two cells. -/
def isWide (m : Mode) (c : Int) : Bool :=
  width m c == some 2

/-- Whether a code point shows. The mode makes no difference: it widens only what has a cell. -/
def isVisible (c : Int) : Bool :=
  0 < cells .standard c

/-! ## Runs of one width -/

/-- The runs of the `count` code points from `c` on, where `current` is the width of the code point
before them. Each run is its first code point and its width. -/
def runsFrom (m : Mode) (current : Option Nat) (c : Int) :
    Nat → List (Int × Option Nat) → List (Int × Option Nat)
  | 0, found => found.reverse
  | count + 1, found =>
    let w := width m c
    runsFrom m w (c + 1) count (if w = current then found else (c, w) :: found)

/-- The maximal runs of equal width from `first` to `last`. -/
def runs (m : Mode) (first last : Int) : List (Int × Option Nat) :=
  match (last - first + 1).toNat with
  | 0 => []
  | count + 1 =>
    let w := width m first
    runsFrom m w (first + 1) count [(first, w)]

end CellWidth
