import CellWidth.Json.Value
import CellWidth.Text.Hexadecimal

/-!
# JSON tokens

Cutting a document into brackets, separators and scalars. White space is the space, the tab, the line
feed and the carriage return. `NaN`, `Infinity` and `-Infinity` are numbers. A control may not stand
in a string as it is, and an integer has at most 4300 digits.

Every token takes at least one character, which is why the cutting ends.
-/

namespace CellWidth.Json

open CellWidth.Text.Hexadecimal (digitValue)

inductive Token where
  | openArray
  | closeArray
  | openObject
  | closeObject
  | colon
  | comma
  | scalar (v : Value)

namespace Token

/-! ## Strings -/

/-- The number that four hexadecimal digits write. -/
def codeUnit (a b c d : Char) : Option Nat :=
  match digitValue a, digitValue b, digitValue c, digitValue d with
  | some a, some b, some c, some d => some (((a * 16 + b) * 16 + c) * 16 + d)
  | _, _, _, _ => none

/-- The code point that a backslash and one letter stand for. -/
def shortEscape (c : Char) : Option Nat :=
  match c with
  | '"' => some 0x22
  | '\\' => some 0x5C
  | '/' => some 0x2F
  | 'b' => some 0x08
  | 'f' => some 0x0C
  | 'n' => some 0x0A
  | 'r' => some 0x0D
  | 't' => some 0x09
  | _ => none

/-- Reads a string after its opening quote: its code points, halves of pairs still apart, and what
follows the closing quote. -/
def stringUnits (found : List Nat) : List Char → Option (List Nat × List Char)
  | [] => none
  | '"' :: rest => some (found.reverse, rest)
  | '\\' :: 'u' :: a :: b :: c :: d :: rest =>
    match codeUnit a b c d with
    | none => none
    | some u => stringUnits (u :: found) rest
  | '\\' :: c :: rest =>
    match shortEscape c with
    | none => none
    | some u => stringUnits (u :: found) rest
  | c :: rest => if c.toNat < 0x20 then none else stringUnits (c.toNat :: found) rest

/-- Whether a code point is the first half of a surrogate pair. -/
def isHighSurrogate (c : Nat) : Bool := 0xD800 ≤ c && c ≤ 0xDBFF

/-- Whether a code point is the second half of a surrogate pair. -/
def isLowSurrogate (c : Nat) : Bool := 0xDC00 ≤ c && c ≤ 0xDFFF

/-- Joins the two halves of each surrogate pair; a half alone stays. -/
def joinPairs : List Nat → List Nat
  | [] => []
  | [c] => [c]
  | high :: low :: rest =>
    if isHighSurrogate high && isLowSurrogate low then
      (0x10000 + (high - 0xD800) * 0x400 + (low - 0xDC00)) :: joinPairs rest
    else high :: joinPairs (low :: rest)

theorem stringUnits_length {found units : List Nat} {cs rest : List Char}
    (h : stringUnits found cs = some (units, rest)) : rest.length < cs.length := by
  fun_induction stringUnits found cs with
  | case1 => simp at h
  | case2 => simp_all
  | case3 => simp at h
  | case4 found a b c d r u hu ih => have := ih h; simp only [List.length_cons]; omega
  | case5 => simp at h
  | case6 found c r hc u hu ih => have := ih h; simp only [List.length_cons]; omega
  | case7 => simp at h
  | case8 found c r h₁ h₂ h₃ hc ih => have := ih h; simp only [List.length_cons]; omega

/-! ## Numbers -/

/-- Whether a character is an ASCII digit. -/
def isDigit (c : Char) : Bool := 0x30 ≤ c.toNat && c.toNat ≤ 0x39

/-- The number that decimal digits write. -/
def decimal (ds : List Char) : Nat :=
  ds.foldl (fun n c => 10 * n + (c.toNat - 0x30)) 0

/-- Splits off a point and the digits after it, of which there must be one. -/
def fraction (cs : List Char) : List Char × List Char :=
  match cs with
  | '.' :: rest =>
    match rest.takeWhile isDigit with
    | [] => ([], cs)
    | ds => (ds, rest.dropWhile isDigit)
  | _ => ([], cs)

/-- The digits of an exponent and what follows them, with the sign already read. -/
def exponentDigits (negative : Bool) (cs : List Char) : Option (Int × List Char) :=
  match cs.takeWhile isDigit with
  | [] => none
  | ds =>
    let n : Int := decimal ds
    some (if negative then -n else n, cs.dropWhile isDigit)

/-- Splits off an exponent, if a whole one is there. -/
def exponent? (cs : List Char) : Option (Int × List Char) :=
  match cs with
  | e :: rest =>
    if e == 'e' || e == 'E' then
      match rest with
      | '+' :: ds => exponentDigits false ds
      | '-' :: ds => exponentDigits true ds
      | ds => exponentDigits false ds
    else none
  | [] => none

/-- The most digits that an integer may have. -/
def maxDigits : Nat := 4300

/-- The number with the given integer part, together with what is left of the text after it. -/
def numberFrom (negative : Bool) (whole : List Char) (cs : List Char) :
    Option (Value × List Char) :=
  let (frac, afterFraction) := fraction cs
  match exponent? afterFraction with
  | some (e, rest) =>
    some (.real (.ofDecimal negative (decimal (whole ++ frac)) (e - frac.length)), rest)
  | none =>
    match frac with
    | [] =>
      if maxDigits < whole.length then none
      else
        let n : Int := decimal whole
        some (.integer (if negative then -n else n), afterFraction)
    | _ => some (.real (.ofDecimal negative (decimal (whole ++ frac)) (-frac.length)), afterFraction)

/-- Reads a number without its sign, whose first character is `c`. -/
def unsigned (negative : Bool) (c : Char) (cs : List Char) : Option (Value × List Char) :=
  if c == '0' then numberFrom negative [c] cs
  else if isDigit c then numberFrom negative (c :: cs.takeWhile isDigit) (cs.dropWhile isDigit)
  else none

theorem length_dropWhile_le (p : Char → Bool) (cs : List Char) :
    (cs.dropWhile p).length ≤ cs.length :=
  (List.dropWhile_sublist p).length_le

theorem fraction_length (cs : List Char) : (fraction cs).2.length ≤ cs.length := by
  unfold fraction
  split
  · split
    · exact Nat.le_refl _
    · rename_i rest _ _
      have := length_dropWhile_le isDigit rest
      simp only [List.length_cons]
      omega
  · exact Nat.le_refl _

theorem exponentDigits_length {negative : Bool} {cs rest : List Char} {e : Int}
    (h : exponentDigits negative cs = some (e, rest)) : rest.length ≤ cs.length := by
  unfold exponentDigits at h
  split at h
  · simp at h
  · have := length_dropWhile_le isDigit cs
    simp only [Option.some.injEq, Prod.mk.injEq] at h
    rw [← h.2]
    exact this

theorem exponent?_length {cs rest : List Char} {e : Int} (h : exponent? cs = some (e, rest)) :
    rest.length ≤ cs.length := by
  unfold exponent? at h
  split at h
  · split at h
    · split at h <;> have := exponentDigits_length h <;> simp only [List.length_cons] at * <;> omega
    · simp at h
  · simp at h

theorem numberFrom_length {negative : Bool} {whole cs rest : List Char} {v : Value}
    (h : numberFrom negative whole cs = some (v, rest)) : rest.length ≤ cs.length := by
  have hf := fraction_length cs
  simp only [numberFrom] at h
  split at h
  · rename_i he
    have := exponent?_length he
    simp only [Option.some.injEq, Prod.mk.injEq] at h
    rw [← h.2]
    omega
  · split at h
    · split at h
      · simp at h
      · simp only [Option.some.injEq, Prod.mk.injEq] at h
        rw [← h.2]
        exact hf
    · simp only [Option.some.injEq, Prod.mk.injEq] at h
      rw [← h.2]
      exact hf

theorem unsigned_length {negative : Bool} {c : Char} {cs rest : List Char} {v : Value}
    (h : unsigned negative c cs = some (v, rest)) : rest.length ≤ cs.length := by
  unfold unsigned at h
  split at h
  · exact numberFrom_length h
  · split at h
    · exact Nat.le_trans (numberFrom_length h) (length_dropWhile_le _ _)
    · simp at h

/-! ## Words -/

/-- What is left of a text after a word at its beginning. -/
def after? : List Char → List Char → Option (List Char)
  | [], cs => some cs
  | _ :: _, [] => none
  | w :: ws, c :: cs => if w = c then after? ws cs else none

theorem after?_length {word cs rest : List Char} (h : after? word cs = some rest) :
    rest.length ≤ cs.length := by
  fun_induction after? word cs with
  | case1 => simp_all
  | case2 => simp at h
  | case3 ws c cs ih => have := ih h; simp only [List.length_cons]; omega
  | case4 => simp at h

/-- The value that a word writes, if the word is there. -/
def word (text : String) (v : Value) (cs : List Char) : Option (Value × List Char) :=
  (after? text.toList cs).map fun rest => (v, rest)

theorem word_length {text : String} {v v' : Value} {cs rest : List Char}
    (h : word text v cs = some (v', rest)) : rest.length ≤ cs.length := by
  unfold word at h
  obtain ⟨r, hr, he⟩ := Option.map_eq_some_iff.1 h
  simp only [Prod.mk.injEq] at he
  rw [← he.2]
  exact after?_length hr

/-! ## The whole document -/

/-- Reads a scalar whose first character is `c`. -/
def scalarFrom (c : Char) (cs : List Char) : Option (Value × List Char) :=
  match c with
  | '"' => (stringUnits [] cs).map fun s => (.string (joinPairs s.1), s.2)
  | 'n' => word "ull" .null cs
  | 't' => word "rue" (.bool true) cs
  | 'f' => word "alse" (.bool false) cs
  | 'N' => word "aN" (.real .nan) cs
  | 'I' => word "nfinity" (.real (.infinite false)) cs
  | '-' =>
    match cs with
    | 'I' :: rest => word "nfinity" (.real (.infinite true)) rest
    | d :: rest => unsigned true d rest
    | [] => none
  | _ => unsigned false c cs

theorem scalarFrom_length {c : Char} {cs rest : List Char} {v : Value}
    (h : scalarFrom c cs = some (v, rest)) : rest.length ≤ cs.length := by
  unfold scalarFrom at h
  split at h
  · obtain ⟨⟨units, left⟩, hr, he⟩ := Option.map_eq_some_iff.1 h
    have := stringUnits_length hr
    simp only [Prod.mk.injEq] at he
    rw [← he.2]
    omega
  · exact word_length h
  · exact word_length h
  · exact word_length h
  · exact word_length h
  · exact word_length h
  · split at h
    · have := word_length h
      simp only [List.length_cons]
      omega
    · have := unsigned_length h
      simp only [List.length_cons]
      omega
    · simp at h
  · exact unsigned_length h

/-- Whether a character may stand between tokens. -/
def isSpace (c : Char) : Bool :=
  c == ' ' || c == '\t' || c == '\n' || c == '\r'

/-- The bracket or separator that a character is. -/
def mark? (c : Char) : Option Token :=
  match c with
  | '[' => some openArray
  | ']' => some closeArray
  | '{' => some openObject
  | '}' => some closeObject
  | ':' => some colon
  | ',' => some comma
  | _ => none

/-- Cuts a text into tokens, which come after those found so far in reverse. -/
def cutOnto (found : List Token) (cs : List Char) : List Token × Bool :=
  match cs with
  | [] => (found.reverse, true)
  | c :: rest =>
    if isSpace c then cutOnto found rest
    else match mark? c with
      | some t => cutOnto (t :: found) rest
      | none =>
        match h : scalarFrom c rest with
        | none => (found.reverse, false)
        | some (v, left) =>
          have := scalarFrom_length h
          cutOnto (scalar v :: found) left
termination_by cs.length

/-- The tokens of a text as far as it can be cut, and whether that is all of it. -/
def cut (cs : List Char) : List Token × Bool :=
  cutOnto [] cs

end Token

end CellWidth.Json
