import CellWidth.Interval
import CellWidth.Text.Blank
import CellWidth.Text.Hexadecimal
import CellWidth.Text.Quoted

/-!
# Lines of the Unicode character database

A data line is `XXXX..YYYY ; value # comment` or `XXXX ; value # comment`, with blanks wherever they
are wanted. The first semicolon ends the code points, the first number sign after it ends the value.
Lines that are blank or begin with a number sign hold no data.

A line that is neither is refused; nothing is skipped because it cannot be read.
-/

namespace CellWidth.Generator

open CellWidth.Text

/-- What a data line says: all code points of an interval have a value. -/
structure DataLine where
  interval : Interval
  value : List Char
deriving DecidableEq

namespace DataLine

/-- Why a line is refused. -/
inductive Refusal where
  /-- There is no semicolon. -/
  | noSeparator
  /-- There are more than two code points. -/
  | tooManyEnds
  | notHexadecimal (t : List Char)
deriving DecidableEq

/-- How much of a quoted text a message shows. -/
def maxQuoted : Nat := 200

/-- The wording of a refusal. -/
def Refusal.message : Refusal → String
  | noSeparator => "not enough values to unpack (expected 2, got 1)"
  | tooManyEnds => "too many values to unpack (expected 2)"
  | notHexadecimal t =>
    "invalid literal for int() with base 16: "
      ++ String.ofList ((Quoted.write (t.map Char.toNat)).take maxQuoted)

/-- Splits a text at the first character that is `mark`, which is dropped. -/
def splitAt? (mark : Char) : List Char → Option (List Char × List Char)
  | [] => none
  | c :: rest =>
    if c = mark then some ([], rest)
    else (splitAt? mark rest).map fun s => (c :: s.1, s.2)

/-- Splits a text at the first two points in a row, which are dropped. -/
def splitDots? : List Char → Option (List Char × List Char)
  | [] => none
  | '.' :: '.' :: rest => some ([], rest)
  | c :: rest => (splitDots? rest).map fun s => (c :: s.1, s.2)

/-- Reads one code point. -/
def readEnd (t : List Char) : Except Refusal Int :=
  match Hexadecimal.read? t with
  | some c => .ok c
  | none => .error (.notHexadecimal t)

/-- The texts of the two ends of an interval; a single code point is both. -/
def ends (t : List Char) : Except Refusal (List Char × List Char) :=
  match splitDots? t with
  | none => .ok (t, t)
  | some (first, last) =>
    match splitDots? last with
    | none => .ok (first, last)
    | some _ => .error .tooManyEnds

/-- Reads an interval, the first end before the last. -/
def readInterval (t : List Char) : Except Refusal Interval :=
  match ends t with
  | .error r => .error r
  | .ok (first, last) =>
    match readEnd first with
    | .error r => .error r
    | .ok a =>
      match readEnd last with
      | .error r => .error r
      | .ok b => .ok ⟨a, b⟩

/-- The value in what follows the semicolon. -/
def valueOf (t : List Char) : List Char :=
  trim (t.takeWhile (· != '#'))

/-- Reads a line; there is nothing in one that is blank or a comment. -/
def read (line : List Char) : Except Refusal (Option DataLine) :=
  match trim line with
  | [] => .ok none
  | '#' :: _ => .ok none
  | t =>
    match splitAt? ';' t with
    | none => .error .noSeparator
    | some (codes, rest) =>
      match readInterval (trim codes) with
      | .error r => .error r
      | .ok i => .ok (some ⟨i, valueOf rest⟩)

end DataLine

end CellWidth.Generator
