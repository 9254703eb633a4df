import CellWidth.Generator.Listing
import CellWidth.Generator.Selection
import CellWidth.Record
import CellWidth.Text.Lines
import CellWidth.Unicode.ZeroWidth

/-!
# Both tables from two files

The first file gives the table of code points without width, the second the table of wide ones. Both
are read before anything is written; then the listings are written one after the other, with an empty
line between them. So what is written ends where a table ends, whatever goes wrong.
-/

namespace CellWidth.Generator

open CellWidth.Text

/-- Why the tables are not made. -/
inductive Failure where
  | line (r : DataLine.Refusal)
  | encoding (f : Utf8.Fault)
  | label (e : Unicode.LabelError)
deriving DecidableEq

/-- The wording of a failure. -/
def Failure.message : Failure → String
  | line r => r.message
  | encoding f => f.message
  | label e => e.message

/-- What a file of data gives: its lines up to the first fault in its encoding, and the fault. -/
abbrev Input := List (List Char) × Option Utf8.Fault

/-- The table made from a file. A line that cannot be read comes before a later fault. -/
def readTable (sel : Selection) (input : Input) : Except Failure (List Interval) :=
  match sel.table input.1 with
  | .error r => .error (.line r)
  | .ok is =>
    match input.2 with
    | some f => .error (.encoding f)
    | none => .ok is

/-- The name of the table of code points without width. -/
def zeroWidthName : String := "ZERO_WIDTH_TABLE"

/-- The name of the table of wide code points. -/
def wideName : String := "WIDE_TABLE"

/-- The Unicode version from which `Unicode.label` has its names. -/
def nameVersion : String := "14.0.0"

/-- The records that tell what has been read. The names of the characters are those of a later version
of Unicode than the tables of this library, which is worth a warning. -/
def summary (zero wide : List Interval) : List Record :=
  let logger := "generate_tables"
  [⟨.info, logger, "zero-width: " ++ toString zero.length ++ " intervals, wide: "
      ++ toString wide.length ++ " intervals"⟩]
    ++ if nameVersion = Unicode.version then []
      else [⟨.warning, logger, "character names come from Unicode " ++ nameVersion⟩]

/-- What has been written and logged, and the failure that ended it. -/
structure Product where
  text : String
  records : List Record
  failure : Option Failure
deriving DecidableEq

/-- Writes the two listings as far as they can be written. -/
def writeTables (zero wide : List Interval) : String × Option Failure :=
  match Listing.render zeroWidthName zero with
  | .error e => ("", some (.label e))
  | .ok first =>
    match Listing.render wideName wide with
    | .error e => (first ++ "\n", some (.label e))
    | .ok second => (first ++ "\n" ++ second, none)

/-- Reads both tables, the one of code points without width first. -/
def readTables (derived eastAsian : Input) : Except Failure (List Interval × List Interval) :=
  match readTable .zeroWidth derived with
  | .error f => .error f
  | .ok zero =>
    match readTable .wide eastAsian with
    | .error f => .error f
    | .ok wide => .ok (zero, wide)

/-- Makes both tables. -/
def generate (derived eastAsian : Input) : Product :=
  match readTables derived eastAsian with
  | .error f => ⟨"", [], some f⟩
  | .ok (zero, wide) =>
    let written := writeTables zero wide
    ⟨written.1, summary zero wide, written.2⟩

end CellWidth.Generator
