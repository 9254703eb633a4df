import CellWidth.Json.Document
import CellWidth.Settings.Folder
import CellWidth.Settings.Switch
import CellWidth.Text.Utf8

/-!
# The preference file

The file is a JSON object whose member `cjk` is a switch: whether text is measured in the legacy mode
unless the caller says otherwise. A file that is missing, empty of meaning or without the member states
that it is off. A file that cannot be read is a failure, of which there are many kinds.

How many arrays and objects can be open at a time is what the stack of the program leaves where it comes to
read the file. It is not the same from one call to another, and is given with each. A file whose document
is nested more deeply is not read at all.
-/

namespace CellWidth.Settings

open CellWidth.Text

/-- The name of the member. -/
def memberName : Json.Text := points "cjk"

/-- Why a preference file cannot be read. -/
inductive LoadFailure where
  | isFolder
  | notText (f : Utf8.Fault)
  | notDocument
  | notObject
  | notASwitch (r : NotASwitch)

/-- The wording of a failure. -/
def LoadFailure.message : LoadFailure → String
  | isFolder => Obstacle.message .entryIsFolder
  | notText f => f.message
  | notDocument => "the document is not JSON"
  | notObject => "the document is not an object"
  | notASwitch r => r.message

/-- What comes of reading a preference file. -/
inductive Reading where
  | preference (on : Bool)
  | failure (f : LoadFailure)
  /-- The reading breaks off, since the document is nested too deeply. -/
  | tooDeep (d : Json.TooDeep)

/-- What a document states. A document that counts as false states that the switch is off, like an
object without the member. -/
def ofDocument (v : Json.Value) : Reading :=
  if v.isTruthy then
    match v with
    | .object members =>
      match Json.member? memberName members with
      | none => .preference false
      | some w =>
        match readSwitch w with
        | .ok b => .preference b
        | .error r => .failure (.notASwitch r)
    | _ => .failure .notObject
  else .preference false

/-- What comes of reading the bytes of a file. -/
def ofBytes (limit : Nat) (bytes : List UInt8) : Reading :=
  match Utf8.decode bytes with
  | .error f => .failure (.notText f)
  | .ok t =>
    match Json.parse limit t with
    | .error .malformed => .failure .notDocument
    | .error (.tooDeep d) => .tooDeep d
    | .ok v => ofDocument v

/-- What comes of reading whatever stands at the path of the file. -/
def ofEntry (limit : Nat) : Entry → Reading
  | .missing => .preference false
  | .folder => .failure .isFolder
  | .file bytes => ofBytes limit bytes

/-- The document that states a preference. -/
def document (on : Bool) : List Char :=
  "\x7b\n  \"cjk\": ".toList ++ (if on then "true" else "false").toList ++ "\n\x7d".toList

end CellWidth.Settings
