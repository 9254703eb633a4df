/-!
# The configuration folder

The preferences are in a file of a folder of their own, below the folder for the configuration of all
programs. Either may be missing, and something else may stand in their place. This is all that is
known of the disk: what stands at the two paths.
-/

namespace CellWidth.Settings

/-- What stands at the path of the preference file. -/
inductive Entry where
  | missing
  | folder
  | file (bytes : List UInt8)
deriving DecidableEq

/-- What stands at the path of the configuration root. Below a file there is nothing. -/
inductive Root where
  | absent
  | file
  /-- A folder with the folder of the preferences in it. -/
  | folder (entry : Entry)
deriving DecidableEq

/-- What stands in the way of writing: a file where a folder is needed, or a folder where the file
should be. -/
inductive Obstacle where
  | rootIsFile
  | entryIsFolder
deriving DecidableEq

/-- The wording of an obstacle. -/
def Obstacle.message : Obstacle → String
  | rootIsFile => "[Errno 20] Not a directory"
  | entryIsFolder => "[Errno 21] Is a directory"

namespace Root

/-- What can be found at the path of the preference file. -/
def entry : Root → Entry
  | folder e => e
  | _ => .missing

/-- Whether the folder of the preferences is there. -/
def hasFolder : Root → Bool
  | folder _ => true
  | _ => false

/-- Makes the folders that are missing. -/
def makeFolders : Root → Except Obstacle Root
  | absent => .ok (folder .missing)
  | file => .error .rootIsFile
  | folder e => .ok (folder e)

/-- Writes the preference file, over the one that is there. -/
def store (bytes : List UInt8) (r : Root) : Except Obstacle Root :=
  match r.makeFolders with
  | .error o => .error o
  | .ok (folder .folder) => .error .entryIsFolder
  | .ok _ => .ok (folder (.file bytes))

/-! ## Changes from outside -/

/-- Puts something at the path of the preference file, in the place of what is there. -/
def put (e : Entry) (r : Root) : Except Obstacle Root :=
  match r.makeFolders with
  | .error o => .error o
  | .ok _ => .ok (folder e)

/-- Takes away what stands at the path of the preference file. -/
def remove : Root → Root
  | folder _ => folder .missing
  | r => r

end Root

end CellWidth.Settings
