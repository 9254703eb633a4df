import CellWidth.Text.Hexadecimal
import CellWidth.Text.Printable

/-!
# Quoted text

A text between quotes, in which everything that would not show is escaped. The quote is an
apostrophe, or a double quote where the text holds apostrophes and no double quote.

The code points of the text may be surrogates, which no `Char` is: they are not printable and are
always escaped.
-/

namespace CellWidth.Text.Quoted

/-- The quote that a text is written with. -/
def quoteOf (t : List Nat) : Char :=
  if t.contains '\''.toNat && !t.contains '"'.toNat then '"' else '\''

/-- A backslash, a letter, and the code point in so many hexadecimal places. -/
def numeric (letter : Char) (places : Nat) (c : Nat) : List Char :=
  '\\' :: letter :: Hexadecimal.write .lower places c

/-- One code point of a text between the quotes `quote`. -/
def escape (quote : Char) (c : Nat) : List Char :=
  if c = quote.toNat || c = '\\'.toNat then ['\\', Char.ofNat c]
  else if c = '\n'.toNat then ['\\', 'n']
  else if c = '\r'.toNat then ['\\', 'r']
  else if c = '\t'.toNat then ['\\', 't']
  else if isPrintable c then [Char.ofNat c]
  else if c < 0x100 then numeric 'x' 2 c
  else if c < 0x10000 then numeric 'u' 4 c
  else numeric 'U' 8 c

/-- The text between quotes. -/
def write (t : List Nat) : List Char :=
  let quote := quoteOf t
  quote :: t.flatMap (escape quote) ++ [quote]

end CellWidth.Text.Quoted
