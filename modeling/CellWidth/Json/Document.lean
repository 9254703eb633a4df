import CellWidth.Json.Token

/-!
# Reading JSON documents

A document is read token by token. What has been read of the arrays and objects that are still open
stands on a stack, the innermost first; beside it is what may come next. So one pass over the tokens
reads a document. There is a limit to how many arrays and objects are open at a time, and the first
token that cannot be read decides how the reading fails: it fits nowhere, or it passes the limit.
-/

namespace CellWidth.Json

/-! ## Failures -/

/-- The kinds of values that hold others. -/
inductive Container where
  | array
  | object
deriving DecidableEq

/-- A value of this kind is inside too many others. -/
structure TooDeep where
  container : Container
deriving DecidableEq

/-- The wording of the failure. -/
def TooDeep.message (d : TooDeep) : String :=
  "maximum recursion depth exceeded while decoding a JSON "
    ++ (match d.container with | .array => "array" | .object => "object")
    ++ " from a unicode string"

/-- Why a text cannot be read as a document. -/
inductive ParseError where
  | malformed
  | tooDeep (d : TooDeep)
deriving DecidableEq

/-! ## Reading -/

/-- A value that is still open, with its parts so far in reverse. -/
inductive Frame where
  | array (items : List Value)
  | object (members : List (Text × Value))
  /-- An object, and the name of the member whose value is being read. -/
  | member (members : List (Text × Value)) (name : Text)

/-- What may come next. -/
inductive Expected where
  | value
  /-- A value, or the end of the array that has just been opened. -/
  | firstItem
  | name
  /-- A name, or the end of the object that has just been opened. -/
  | firstName
  | colon
  /-- A comma, or the end of the innermost array or object. -/
  | comma
  /-- Nothing: the document is complete. -/
  | nothing (document : Value)

/-- What has been read of a document. -/
structure Reading where
  stack : List Frame
  expected : Expected

namespace Reading

/-- Before the first token. -/
def start : Reading := ⟨[], .value⟩

/-- Puts a finished value into the innermost open one. -/
def finish (v : Value) : List Frame → Except ParseError Reading
  | [] => .ok ⟨[], .nothing v⟩
  | .array items :: outer => .ok ⟨.array (v :: items) :: outer, .comma⟩
  | .member members name :: outer => .ok ⟨.object ((name, v) :: members) :: outer, .comma⟩
  | .object _ :: _ => .error .malformed

/-- Ends the innermost open value with a bracket. -/
def close (bracket : Token) : List Frame → Except ParseError Reading
  | .array items :: outer =>
    match bracket with
    | .closeArray => finish (.array items.reverse) outer
    | _ => .error .malformed
  | .object members :: outer =>
    match bracket with
    | .closeObject => finish (.object members.reverse) outer
    | _ => .error .malformed
  | _ => .error .malformed

/-- Opens an array or an object, unless as many are open as may be. -/
def openContainer (limit : Nat) (stack : List Frame) (c : Container) : Except ParseError Reading :=
  if stack.length < limit then
    match c with
    | .array => .ok ⟨.array [] :: stack, .firstItem⟩
    | .object => .ok ⟨.object [] :: stack, .firstName⟩
  else .error (.tooDeep ⟨c⟩)

/-- Begins a value. -/
def openValue (limit : Nat) (stack : List Frame) : Token → Except ParseError Reading
  | .scalar v => finish v stack
  | .openArray => openContainer limit stack .array
  | .openObject => openContainer limit stack .object
  | _ => .error .malformed

/-- Reads the name of a member of the innermost object. -/
def readName (t : Token) : List Frame → Except ParseError Reading
  | .object members :: outer =>
    match t with
    | .scalar (.string s) => .ok ⟨.member members s :: outer, .colon⟩
    | _ => .error .malformed
  | _ => .error .malformed

/-- Goes on after a comma. -/
def readNext : List Frame → Except ParseError Reading
  | .array items :: outer => .ok ⟨.array items :: outer, .value⟩
  | .object members :: outer => .ok ⟨.object members :: outer, .name⟩
  | _ => .error .malformed

/-- Reads one token. -/
def step (limit : Nat) (r : Reading) (t : Token) : Except ParseError Reading :=
  match r.expected with
  | .value => openValue limit r.stack t
  | .firstItem =>
    match t with
    | .closeArray => close t r.stack
    | _ => openValue limit r.stack t
  | .name => readName t r.stack
  | .firstName =>
    match t with
    | .closeObject => close t r.stack
    | _ => readName t r.stack
  | .colon =>
    match t with
    | .colon => .ok ⟨r.stack, .value⟩
    | _ => .error .malformed
  | .comma =>
    match t with
    | .comma => readNext r.stack
    | _ => close t r.stack
  | .nothing _ => .error .malformed

/-- Reads tokens as far as they go. -/
def run (limit : Nat) (r : Reading) : List Token → Except ParseError Reading
  | [] => .ok r
  | t :: rest =>
    match r.step limit t with
    | .error e => .error e
    | .ok r' => run limit r' rest

end Reading

/-- Reads a text as one document, in which at most `limit` arrays and objects are open at a time. -/
def parse (limit : Nat) (cs : List Char) : Except ParseError Value :=
  let (tokens, whole) := Token.cut cs
  match Reading.start.run limit tokens with
  | .error e => .error e
  | .ok ⟨_, .nothing v⟩ => if whole then .ok v else .error .malformed
  | .ok _ => .error .malformed

end CellWidth.Json
