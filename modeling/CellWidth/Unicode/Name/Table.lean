import CellWidth.Unicode.Name.Alphabets
import CellWidth.Unicode.Name.Ancient
import CellWidth.Unicode.Name.Eastern
import CellWidth.Unicode.Name.Extended
import CellWidth.Unicode.Name.Forms
import CellWidth.Unicode.Name.Indic
import CellWidth.Unicode.Name.Notations
import CellWidth.Unicode.Name.Pictures
import CellWidth.Unicode.Name.Radicals
import CellWidth.Unicode.Name.Semitic
import CellWidth.Unicode.Name.Signs
import CellWidth.Unicode.Name.Syllables
import CellWidth.Unicode.Name.Symbols

/-!
# Names by table

All names of Unicode 14 that do not follow from a rule.
-/

namespace CellWidth.Unicode

/-- The runs of names, in ascending order of code points. -/
def nameRuns : List NameRun :=
  NameRun.alphabets ++ NameRun.semitic ++ NameRun.indic ++ NameRun.eastern ++ NameRun.extended
    ++ NameRun.symbols ++ NameRun.radicals ++ NameRun.syllables ++ NameRun.forms
    ++ NameRun.ancient ++ NameRun.signs ++ NameRun.notations ++ NameRun.pictures

/-- The name of a character from the table. -/
def tableName? (c : Nat) : Option String :=
  match nameRuns.find? fun r => r.covers c with
  | none => none
  | some r => (r.name? c).map String.ofList

end CellWidth.Unicode
