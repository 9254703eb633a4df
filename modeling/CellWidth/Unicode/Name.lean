import CellWidth.Text.Hexadecimal
import CellWidth.Unicode.Name.Table

/-!
# Names of characters

The name of a character: by the rule for ideographs and a few others (their code point), by the rule for
Hangul syllables (the romanised letters), from the table, or else `U+` and the code point.

Only an integer of the code space has a name. The two faults differ in how far outside the integer is.
-/

namespace CellWidth.Unicode

open CellWidth.Text

/-! ## Names by rule -/

/-- The blocks of characters that are named by number: the first and the last code point of each, and
what stands before the number. -/
def numbered : List (Nat × Nat × String) :=
  [(0x3400, 0x4dbf, "CJK UNIFIED IDEOGRAPH-"), (0x4e00, 0x9fff, "CJK UNIFIED IDEOGRAPH-"),
    (0xf900, 0xfa6d, "CJK COMPATIBILITY IDEOGRAPH-"),
    (0xfa70, 0xfad9, "CJK COMPATIBILITY IDEOGRAPH-"),
    (0x18b00, 0x18cd5, "KHITAN SMALL SCRIPT CHARACTER-"), (0x1b170, 0x1b2fb, "NUSHU CHARACTER-"),
    (0x20000, 0x2a6df, "CJK UNIFIED IDEOGRAPH-"), (0x2a700, 0x2b738, "CJK UNIFIED IDEOGRAPH-"),
    (0x2b740, 0x2b81d, "CJK UNIFIED IDEOGRAPH-"), (0x2b820, 0x2cea1, "CJK UNIFIED IDEOGRAPH-"),
    (0x2ceb0, 0x2ebe0, "CJK UNIFIED IDEOGRAPH-"),
    (0x2f800, 0x2fa1d, "CJK COMPATIBILITY IDEOGRAPH-"),
    (0x30000, 0x3134a, "CJK UNIFIED IDEOGRAPH-")]

/-- What stands before the number in the name of a character that is named by number. -/
def numberedHead? (c : Nat) : Option String :=
  (numbered.find? fun b => b.1 ≤ c && c ≤ b.2.1).map (·.2.2)

/-- The romanised initial consonants of a syllable. -/
def initials : List String :=
  ["G", "GG", "N", "D", "DD", "R", "M", "B", "BB", "S", "SS", "", "J", "JJ", "C", "K", "T", "P", "H"]

/-- The romanised vowels. -/
def vowels : List String :=
  ["A", "AE", "YA", "YAE", "EO", "E", "YEO", "YE", "O", "WA", "WAE", "OE", "YO", "U", "WEO", "WE",
    "WI", "YU", "EU", "YI", "I"]

/-- The romanised final consonants; a syllable may have none. -/
def finals : List String :=
  ["", "G", "GG", "GS", "N", "NJ", "NH", "D", "L", "LG", "LM", "LB", "LS", "LT", "LP", "LH", "M",
    "B", "BS", "S", "SS", "NG", "J", "C", "K", "T", "P", "H"]

/-- The first of the Hangul syllables, which are ordered by initial, vowel and final. -/
def firstSyllable : Nat := 0xac00

/-- Whether a code point is a Hangul syllable. -/
def isSyllable (c : Nat) : Bool :=
  firstSyllable ≤ c && c < firstSyllable + 19 * 21 * 28

/-- The letters of the syllable with index `i`. -/
def romanised (i : Nat) : String :=
  initials.getD (i / 588) "" ++ vowels.getD (i / 28 % 21) "" ++ finals.getD (i % 28) ""

/-- The name of a character of the code space, where it has one. -/
def name? (c : Nat) : Option String :=
  match numberedHead? c with
  | some head => some (head ++ String.ofList (Hexadecimal.write .upper 4 c))
  | none =>
    if isSyllable c then some ("HANGUL SYLLABLE " ++ romanised (c - firstSyllable))
    else tableName? c

/-! ## Labels -/

/-- Why an integer has no label: no code point is so large or negative, or not even a signed number
of 32 bits is. -/
inductive LabelError where
  | outsideCodeSpace
  | outsideWord
deriving DecidableEq

/-- The wording of a fault. -/
def LabelError.message : LabelError → String
  | outsideCodeSpace => "chr() arg not in range(0x110000)"
  | outsideWord => "code point outside 32 bits"

/-- The name of a code point, or `U+` and its number in hexadecimal where it has none. -/
def label (c : Int) : Except LabelError String :=
  if c < -0x80000000 ∨ 0x7fffffff < c then .error .outsideWord
  else if c < 0 ∨ 0x10ffff < c then .error .outsideCodeSpace
  else .ok ((name? c.toNat).getD ("U+" ++ String.ofList (Hexadecimal.write .upper 4 c)))

end CellWidth.Unicode
