import CellWidth.CommandLine.Run

/-!
# The command line program

Looks up on the real disk what the plan of a command line names, runs it, and writes what the run
leaves behind.
-/

namespace CellWidth

open CommandLine

/-- The paths that a plan names. -/
def pathsOf (p : Plan) : List (List Char) :=
  p.directives.filterMap fun d =>
    match d with
    | .read _ path => path
    | .write path => path
    | _ => none

/-- The folders above a path, the nearest first. The path is given from its end. -/
def foldersAbove : List Char → List (List Char)
  | [] => [['.']]
  | '/' :: rest => (if rest = [] then ['/'] else rest.reverse) :: foldersAbove rest
  | _ :: rest => foldersAbove rest

/-- What stands at a path, if anything does. -/
def kindAt (path : List Char) : IO (Option IO.FS.FileType) := do
  try return some (← (← IO.FS.realPath (String.ofList path)).metadata).type
  catch _ => return none

/-- The one name of what is there at a path. -/
def nameAt (path : List Char) : IO (List Char) :=
  return (← IO.FS.realPath (String.ofList path)).toString.toList

/-- The last part of a path, which is given from its end. -/
def lastPart (fromEnd : List Char) : List Char :=
  (fromEnd.takeWhile (· != '/')).reverse

/-- What a path leads through that is not there: the first name that is missing below a folder that is
there, or a file in the place of a folder. -/
def lookBelow : List (List Char) → IO Target
  | [] => return .nowhere .missing
  | path :: rest => do
    match ← kindAt path with
    | some .dir => return .nowhere .missing
    | some _ => return .below (← nameAt path)
    | none =>
      match rest with
      | folder :: _ =>
        match ← kindAt folder with
        | some .dir => return .below ((← nameAt folder) ++ '/' :: lastPart path.reverse)
        | _ => lookBelow rest
      | [] => return .nowhere .missing

/-- Where a path leads on the real disk. -/
def lookUp (path : List Char) : IO Target := do
  if path = WorkingFolder.nullDevice then return .device
  match ← kindAt path with
  | some .dir => return .folder
  | some _ => return .file (← nameAt path)
  | none =>
    let fromEnd := path.reverse.dropWhile (· == '/')
    match foldersAbove fromEnd with
    | [] => return .nowhere .missing
    | nearest :: rest =>
      match ← kindAt nearest with
      | some .dir =>
        let last := lastPart fromEnd
        let name := (← nameAt nearest) ++ '/' :: last
        if WorkingFolder.maxName < (String.ofList last).utf8ByteSize then
          return .nowhere .nameTooLong
        return if path.getLast? = some '/' then .slashed name else .file name
      | _ => lookBelow (nearest :: rest)

/-- The name of the file that a path is about. -/
def fileNameOf : Target → Option (List Char)
  | .file name => some name
  | .slashed name => some name
  | .below name => some name
  | _ => none

/-- Runs the program on the real disk and the standard streams. -/
def runOnDisk (args : List (List Char)) : IO UInt32 := do
  let plan := planOf args
  let paths := pathsOf plan
  let mut targets : List (List Char × Target) := []
  let mut files : List (List Char × List UInt8) := []
  for path in paths do
    let target ← lookUp path
    targets := (path, target) :: targets
    if let some name := fileNameOf target then
      if (files.lookup name).isNone && (← kindAt name).isSome then
        files := (name, (← IO.FS.readBinFile (String.ofList name)).toList) :: files
  let input ←
    if plan.misuse.isNone && paths.contains Opened.standard then
      pure (Text.Lines.read (← (← IO.getStdin).readBinToEnd).toList)
    else pure ([], none)
  let known := targets
  let disk : Disk := ⟨fun path => (known.lookup path).getD (.nowhere .missing), files⟩
  let outcome := run args disk input
  for (name, bytes) in outcome.files do
    if files.lookup name != some bytes then
      IO.FS.writeBinFile (String.ofList name) ⟨bytes.toArray⟩
  for r in outcome.records do
    IO.eprintln (r.logger ++ " - " ++ r.level.name ++ " - " ++ r.message)
  IO.print outcome.standardOutput
  IO.eprint outcome.standardError
  if let some message := outcome.result.message? then IO.eprintln message
  return outcome.result.exitCode.toUInt32

end CellWidth

/-- Runs the program with the arguments of the command line. -/
def main (args : List String) : IO UInt32 :=
  CellWidth.runOnDisk (args.map String.toList)
