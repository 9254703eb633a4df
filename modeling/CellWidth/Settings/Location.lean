/-!
# Where the preferences are

The configuration root is named by a variable of its own; where it is not set, it is a hidden folder
in the home folder. A variable that is set counts, also where it is empty.
-/

namespace CellWidth.Settings.Location

/-- A name below a folder. A folder that is empty or ends in a slash needs no further slash. -/
def join (folder name : List Char) : List Char :=
  if folder.isEmpty || folder.getLast? == some '/' then folder ++ name else folder ++ '/' :: name

/-- The folder of the preferences, below the configuration root. -/
def folderName : List Char := "termwidth".toList

/-- The name of the preference file. -/
def fileName : List Char := "width.json".toList

/-- The configuration root in a home folder; the slashes at the end of the latter do not count. -/
def inHome (home : List Char) : List Char :=
  (home.reverse.dropWhile (· == '/')).reverse ++ "/.config".toList

/-- The path of the preference file. -/
def path (configHome : Option (List Char)) (home : List Char) : List Char :=
  join (join (configHome.getD (inHome home)) folderName) fileName

/-- The path of the preference file below the configuration root. -/
def relativePath : List Char :=
  join folderName fileName

end CellWidth.Settings.Location
