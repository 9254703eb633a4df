import CellWidth.Number.Binary64

/-!
# The shortest decimal that reads back

Of the decimals that round to a given binary number, those with the fewest digits are taken, and of
these the nearest to the number. For each count of digits only two decimals can win: the neighbours
of the number on the grid of decimals with that many digits.

The layout is positional where the first digit stands within sixteen places before the point or four
after it, and scientific otherwise.
-/

namespace CellWidth.Binary64

/-- The number of decimal digits of a natural number; zero has one. -/
def decimalLength (n : Nat) : Nat :=
  if n < 10 then 1 else decimalLength (n / 10) + 1
termination_by n

/-- The neighbour of `num / den` on the grid of step `10 ^ step` from which the number with mantissa
`m` and exponent `e` reads back: the nearer of the two, the even one in a tie. -/
def neighbour? (m : Nat) (e : Int) (num den : Nat) (step : Int) : Option Nat :=
  let num := if 0 ≤ step then num else num * Nat.pow 10 (-step).toNat
  let den := if 0 ≤ step then den * Nat.pow 10 step.toNat else den
  let low := num / den
  let twice := 2 * (num % den)
  let readsBack (d : Nat) : Bool := ofDecimal false d step = finite false m e
  let lowFirst : Bool := twice < den || (twice == den && low % 2 == 0)
  let nearer := if lowFirst then low else low + 1
  let farther := if lowFirst then low + 1 else low
  if readsBack nearer then some nearer
  else if readsBack farther then some farther
  else none

/-- Tries the grids with `count` digits, then with one more, and so on, `tries` times. `point` is the
number of digits before the decimal point, negative for zeros after it. -/
def shortestFrom (m : Nat) (e : Int) (num den : Nat) (point : Int) (count : Nat) : Nat → Nat × Int
  | 0 => (num / den, 0)
  | tries + 1 =>
    match neighbour? m e num den (point - count) with
    | some d => (d, point - count)
    | none => shortestFrom m e num den point (count + 1) tries

/-- The shortest decimal that reads back, as digits and a power of ten. Seventeen digits suffice. -/
def shortest (m : Nat) (e : Int) : Nat × Int :=
  let num := if 0 ≤ e then m <<< e.toNat else m
  let den := if 0 ≤ e then 1 else 1 <<< (-e).toNat
  let point : Int := (decimalLength (num * Nat.pow 10 400 / den) : Int) - 400
  shortestFrom m e num den point 1 17

/-! ## Layout -/

/-- The digits of a decimal without zeros at the end, and how many of them stand before the point. -/
def significant (digits : Nat) (step : Int) : List Char × Int :=
  let all := (toString digits).toList
  ((all.reverse.dropWhile (· == '0')).reverse, all.length + step)

/-- A decimal with its point in place. -/
def positional (ds : List Char) (point : Int) : List Char :=
  if point ≤ 0 then '0' :: '.' :: List.replicate (-point).toNat '0' ++ ds
  else if ds.length ≤ point.toNat then
    ds ++ List.replicate (point.toNat - ds.length) '0' ++ ['.', '0']
  else ds.take point.toNat ++ '.' :: ds.drop point.toNat

/-- A decimal with one digit before the point and an exponent of two digits at least. -/
def scientific (ds : List Char) (point : Int) : List Char :=
  let exponent := point - 1
  let sign := if exponent < 0 then '-' else '+'
  let tail := match ds.drop 1 with
    | [] => []
    | rest => '.' :: rest
  ds.take 1 ++ tail ++ 'e' :: sign :: (toString exponent.natAbs).toList.leftpad 2 '0'

/-- The magnitude of a finite number. -/
def magnitudeText (m : Nat) (e : Int) : List Char :=
  if m = 0 then ['0', '.', '0']
  else
    let d := shortest m e
    let (ds, point) := significant d.1 d.2
    if -4 < point ∧ point ≤ 16 then positional ds point else scientific ds point

/-- The text of a number. -/
def text : Binary64 → List Char
  | finite negative m e => (if negative then ['-'] else []) ++ magnitudeText m e
  | infinite negative => (if negative then ['-'] else []) ++ ['i', 'n', 'f']
  | nan => ['n', 'a', 'n']

end CellWidth.Binary64
