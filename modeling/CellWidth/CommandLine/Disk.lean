import CellWidth.CommandLine.Plan

/-!
# Files that a plan names

A disk tells where a path leads, and holds what is in the files. Opening a file for writing makes it
empty, and creates it if there is none.

The working folder is a disk with files and no folders in it. Of what lies outside only this much is
known, that the folders around it are there and the null device is.
-/

namespace CellWidth.CommandLine

/-- Why a file cannot be opened. -/
inductive OpenError where
  | missing
  | notFolder
  | isFolder
  | nameTooLong
deriving DecidableEq

/-- The wording of the system. -/
def OpenError.message : OpenError → String
  | missing => "[Errno 2] No such file or directory"
  | notFolder => "[Errno 20] Not a directory"
  | isFolder => "[Errno 21] Is a directory"
  | nameTooLong => "[Errno 36] File name too long"

/-- Where a path leads. -/
inductive Target where
  /-- To a file, whether it exists or not. Two paths to one file give the same name. -/
  | file (name : List Char)
  /-- To the name of a file with a slash after it, as if it were a folder. -/
  | slashed (name : List Char)
  /-- Further than the name of a file, as if it were a folder. -/
  | below (name : List Char)
  | folder
  /-- To a device that is empty and keeps nothing. -/
  | device
  /-- To a new name outside the disk. -/
  | outside
  | nowhere (e : OpenError)
deriving DecidableEq

structure Disk where
  target : List Char → Target
  files : List (List Char × List UInt8)

namespace Disk

/-- What is in a file. -/
def content? (d : Disk) (name : List Char) : Option (List UInt8) :=
  d.files.lookup name

/-- Puts bytes into a file, in the place of what is there. -/
def setContent (d : Disk) (name : List Char) (bytes : List UInt8) : Disk :=
  { d with files := (name, bytes) :: d.files.filter fun f => f.1 != name }

/-- The longest path, in bytes. -/
def maxPath : Nat := 4095

/-- Where a path leads. An empty one leads nowhere, and neither does one that is too long. -/
def locate (d : Disk) (path : List Char) : Target :=
  if path = [] then .nowhere .missing
  else if maxPath < (String.ofList path).utf8ByteSize then .nowhere .nameTooLong
  else d.target path

/-- Why nothing can be opened where the name of a file is taken for a folder. -/
def throughFile (d : Disk) (name : List Char) : OpenError :=
  if (d.content? name).isSome then .notFolder else .missing

/-- Opens a file for reading: its name, or none for the device. -/
def openRead (d : Disk) (path : List Char) : Except OpenError (Option (List Char)) :=
  match d.locate path with
  | .file name => if (d.content? name).isSome then .ok (some name) else .error .missing
  | .slashed name => .error (d.throughFile name)
  | .below name => .error (d.throughFile name)
  | .folder => .error .isFolder
  | .device => .ok none
  | .outside => .error .missing
  | .nowhere e => .error e

/-- Opens a file for writing: its name, or none where nothing is kept. -/
def openWrite (d : Disk) (path : List Char) : Except OpenError (Option (List Char) × Disk) :=
  match d.locate path with
  | .file name => .ok (some name, d.setContent name [])
  | .slashed _ => .error .isFolder
  | .below name => .error (d.throughFile name)
  | .folder => .error .isFolder
  | .device => .ok (none, d)
  | .outside => .ok (none, d)
  | .nowhere e => .error e

end Disk

/-! ## The working folder -/

namespace WorkingFolder

/-- The parts of a path, between its slashes. -/
def parts : List Char → List (List Char)
  | [] => [[]]
  | c :: rest =>
    if c = '/' then [] :: parts rest
    else match parts rest with
      | [] => [[c]]
      | p :: ps => (c :: p) :: ps

/-- The longest name, in bytes. -/
def maxName : Nat := 255

/-- Where the parts of a path lead from a folder: the working folder (`inside`) or one around it. -/
def follow (inside : Bool) : List (List Char) → Target
  | [] => .folder
  | p :: rest =>
    if p = [] ∨ p = ['.'] then follow inside rest
    else if p = ['.', '.'] then follow false rest
    else if maxName < (String.ofList p).utf8ByteSize then .nowhere .nameTooLong
    else if inside then
      if rest = [] then .file p
      else if rest.all List.isEmpty then .slashed p
      else .below p
    else if rest = [] then .outside
    else .nowhere .missing

/-- The null device. -/
def nullDevice : List Char := "/dev/null".toList

/-- Where a path leads. -/
def target (path : List Char) : Target :=
  if path = nullDevice then .device
  else follow (path.head? != some '/') (parts path)

/-- The disk of a folder that holds files. -/
def disk (files : List (List Char × List UInt8)) : Disk :=
  ⟨target, files⟩

end WorkingFolder

end CellWidth.CommandLine
