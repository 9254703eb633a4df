import CellWidth.Settings.Location
import CellWidth.Settings.Measure

/-!
# Requests

Everything that can be asked of the settings, and everything that can happen to what they are read
from, as data. What a request may use of the stack and of the memory is given with each call of it. A
session is a list of calls that share one state.
-/

namespace CellWidth.Settings

inductive Request where
  /-- The environment variable is set or unset. -/
  | setVariable (value : Option String)
  /-- A file is put at the path of the preferences. -/
  | putFile (bytes : List UInt8)
  /-- A folder is put at the path of the preferences. -/
  | putFolder
  | removeEntry
  /-- The configuration root becomes a file. -/
  | block
  /-- The configuration root is taken away. -/
  | unblock
  | readEntry
  | shape
  | path (create : Bool)
  | load
  | cached
  | clear
  | save (on : Bool)
  | variableSwitch
  | defaultSwitch
  | resolve (v : Json.Value)
  | textWidth (t : List Char) (legacy : Option Bool)
  | isWide (s : Symbol) (legacy : Option Bool)
  | truncate (t : List Char) (maxWidth : Int) (ellipsis : List Char) (legacy : Option Bool)
  | pad (t : List Char) (width : Int) (align : String) (fill : List Char) (legacy : Option Bool)

/-- Why a request is refused. -/
inductive Refusal where
  /-- A variable cannot hold the character NUL. -/
  | nulInVariable
  | obstacle (o : Obstacle)
  | pad (e : Layout.PadError)
deriving DecidableEq

/-- The wording of a refusal. -/
def Refusal.message : Refusal → String
  | nulInVariable => "embedded null byte"
  | obstacle o => o.message
  | pad e => e.message

inductive Answer where
  | done
  | switch (on : Bool)
  | switch? (on : Option Bool)
  | count (n : Nat)
  | text (t : List Char)
  | entry (e : Entry)
  /-- Whether the folder of the preferences is there, and whether anything stands at their path. -/
  | shape (folder entry : Bool)
  | refused (r : Refusal)
deriving DecidableEq

/-- What is left to a call. -/
structure Allowance where
  /-- How many arrays and objects can be open at a time where the call comes to read the file. -/
  nesting : Nat
  /-- How many characters there is room for where a text is filled up. -/
  room : Layout.Room

namespace Request

/-- Puts something at the path of the preferences. -/
def put (e : Entry) : Action Answer :=
  fun s =>
    match s.root.put e with
    | .ok r => ⟨.ok .done, { s with root := r }, []⟩
    | .error o => ⟨.ok (.refused (.obstacle o)), s, []⟩

/-- Sets or unsets the variable. -/
def assign (value : Option String) : Action Answer :=
  fun s =>
    match value with
    | some v =>
      if v.toList.contains '\x00' then ⟨.ok (.refused .nulInVariable), s, []⟩
      else ⟨.ok .done, { s with variableText := some v }, []⟩
    | none => ⟨.ok .done, { s with variableText := none }, []⟩

/-- Gives the path of the preferences, and makes the folders if so asked. -/
def locate (create : Bool) : Action Answer :=
  fun s =>
    if create then
      match s.root.makeFolders with
      | .ok r => ⟨.ok (.text Location.relativePath), { s with root := r }, []⟩
      | .error o => ⟨.ok (.refused (.obstacle o)), s, []⟩
    else ⟨.ok (.text Location.relativePath), s, []⟩

/-- The action that a request asks for. -/
def run (a : Allowance) : Request → Action Answer
  | setVariable value => assign value
  | putFile bytes => put (.file bytes)
  | putFolder => put .folder
  | removeEntry => fun s => ⟨.ok .done, { s with root := s.root.remove }, []⟩
  | block => fun s => ⟨.ok .done, { s with root := .file }, []⟩
  | unblock => fun s => ⟨.ok .done, { s with root := .absent }, []⟩
  | readEntry => fun s => ⟨.ok (.entry s.root.entry), s, []⟩
  | shape => fun s => ⟨.ok (.shape s.root.hasFolder (s.root.entry != .missing)), s, []⟩
  | path create => locate create
  | load => do return .switch (← Settings.load a.nesting)
  | cached => do return .switch (← Settings.cached a.nesting)
  | clear => do
    Settings.clear
    return .done
  | save on => do
    Settings.save on
    return .done
  | variableSwitch => do return .switch? (← Settings.variableSwitch)
  | defaultSwitch => do return .switch (← Settings.defaultSwitch a.nesting)
  | resolve v => do return .switch (← resolveValue a.nesting v)
  | textWidth t legacy => do return .count (← Settings.textWidth a.nesting t legacy)
  | isWide s legacy => do return .switch (← Settings.isWide a.nesting s legacy)
  | truncate t maxWidth ellipsis legacy => do
    return .text (← Settings.truncate a.nesting t maxWidth ellipsis legacy)
  | pad t width align fill legacy => do
    match ← Settings.pad a.nesting a.room t width align fill legacy with
    | .ok padded => return .text padded
    | .error e => return .refused (.pad e)

end Request

/-- A request, and what is left to it. -/
structure Call where
  request : Request
  allowance : Allowance

/-- The action that is called. -/
def Call.run (c : Call) : Action Answer := c.request.run c.allowance

/-- Runs calls one after the other. -/
def session (s : State) : List Call → List (Step Answer)
  | [] => []
  | c :: rest =>
    let step := c.run s
    step :: session step.state rest

end CellWidth.Settings
