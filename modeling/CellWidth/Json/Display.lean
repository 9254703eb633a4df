import CellWidth.Json.Value
import CellWidth.Number.Shortest
import CellWidth.Text.Quoted

/-!
# Showing JSON values in messages

The form in which messages quote a value. It is not JSON: strings are quoted text, and the constants
are spelled `None`, `True` and `False`. An object shows each name once, where it first comes, with its
last value.
-/

namespace CellWidth.Json

/-- Puts a member where its name stands already, or else at the end. -/
def putMember {α : Type} (name : Text) (v : α) : List (Text × α) → List (Text × α)
  | [] => [(name, v)]
  | m :: rest => if m.1 = name then (name, v) :: rest else m :: putMember name v rest

/-- The members with each name once, where it first comes, with its last value. -/
def distinct {α : Type} (members : List (Text × α)) : List (Text × α) :=
  members.foldl (fun found m => putMember m.1 m.2 found) []

/-- Texts with a comma and a space between them. -/
def commaSeparated (texts : List (List Char)) : List Char :=
  (texts.intersperse [',', ' ']).flatten

mutual

/-- A value as messages show it. -/
def Value.display : Value → List Char
  | .null => ['N', 'o', 'n', 'e']
  | .bool true => ['T', 'r', 'u', 'e']
  | .bool false => ['F', 'a', 'l', 's', 'e']
  | .integer n => (toString n).toList
  | .real x => x.text
  | .string s => Text.Quoted.write s
  | .array items => '[' :: commaSeparated (displayItems items) ++ [']']
  | .object members =>
    let shown := (distinct (displayMembers members)).map fun m =>
      Text.Quoted.write m.1 ++ ':' :: ' ' :: m.2
    '{' :: commaSeparated shown ++ ['}']

/-- The texts of the items of an array. -/
def displayItems : List Value → List (List Char)
  | [] => []
  | v :: rest => v.display :: displayItems rest

/-- The names of the members of an object, with the texts of their values. -/
def displayMembers : List (Text × Value) → List (Text × List Char)
  | [] => []
  | (name, v) :: rest => (name, v.display) :: displayMembers rest

end

end CellWidth.Json
