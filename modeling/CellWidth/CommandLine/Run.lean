import CellWidth.CommandLine.Disk
import CellWidth.Generator.Product

/-!
# Running the program

The program opens the files of its plan one after the other, the file for the listings among them, and
only then reads. So the file for the listings is created, or made empty, before anything can go wrong
with the data, and it never holds more than whole tables.
-/

namespace CellWidth.CommandLine

open CellWidth.Text

/-- Where an operand is read from. -/
inductive Source where
  | file (name : List Char)
  | standardInput
  /-- Something without lines. -/
  | empty
deriving DecidableEq

/-- Where the listings are written to. -/
inductive Destination where
  | standardOutput
  | file (name : List Char)
  /-- Something that keeps nothing. -/
  | discard
  /-- Nothing that could be written to. -/
  | missing
deriving DecidableEq

/-- What has been opened. -/
structure Opened where
  disk : Disk
  derived : Source
  eastAsian : Source
  destination : Destination

namespace Opened

/-- Nothing has been opened; listings go to the standard output. -/
def start (d : Disk) : Opened := ⟨d, .empty, .empty, .standardOutput⟩

/-- Makes a source the one of an operand. -/
def setSource (s : Opened) (o : Operand) (source : Source) : Opened :=
  match o with
  | .derived => { s with derived := source }
  | .eastAsian => { s with eastAsian := source }

/-- The path that stands for the standard input or output. -/
def standard : List Char := ['-']

/-- Opens a file of data. -/
def read (s : Opened) (o : Operand) (path : List Char) : Except Misuse Opened :=
  if path = standard then .ok (s.setSource o .standardInput)
  else if path.contains '\x00' then .error (.badName o.title "r" path)
  else match s.disk.openRead path with
    | .error e => .error (.cannotOpen o.title path e.message)
    | .ok none => .ok (s.setSource o .empty)
    | .ok (some name) => .ok (s.setSource o (.file name))

/-- Opens the file for the listings. -/
def write (s : Opened) (path : List Char) : Except Misuse Opened :=
  if path = standard then .ok { s with destination := .standardOutput }
  else if path.contains '\x00' then .error (.badName Flag.output.title "w" path)
  else match s.disk.openWrite path with
    | .error e => .error (.cannotOpen Flag.output.title path e.message)
    | .ok (none, d) => .ok { s with disk := d, destination := .discard }
    | .ok (some name, d) => .ok { s with disk := d, destination := .file name }

end Opened

/-- Why the program stops before it reads. -/
inductive Stop where
  | help
  | misuse (m : Misuse)
deriving DecidableEq

/-- Follows directives as far as they go. -/
def follow (s : Opened) : List Directive → Opened × Option Stop
  | [] => (s, none)
  | .help :: _ => (s, some .help)
  | .verbose :: rest => follow s rest
  | .read o none :: rest => follow (s.setSource o .empty) rest
  | .read o (some path) :: rest =>
    match s.read o path with
    | .error m => (s, some (.misuse m))
    | .ok s' => follow s' rest
  | .write none :: rest => follow { s with destination := .missing } rest
  | .write (some path) :: rest =>
    match s.write path with
    | .error m => (s, some (.misuse m))
    | .ok s' => follow s' rest

/-! ## Texts -/

/-- The name under which the program speaks of itself. -/
def programName : String := "generate_tables.py"

/-- The line that shows how the program is called. -/
def usage : String :=
  "usage: " ++ programName ++ " [-h] [-o OUTPUT] [-v] derived east_asian\n"

/-- What the option for help prints. -/
def helpText : String :=
  usage ++ "\n从Unicode字符数据库生成 termwidth/interval_table.py 中的两张区间表。\n\n"
    ++ "positional arguments:\n"
    ++ "  derived               path to DerivedGeneralCategory.txt\n"
    ++ "  east_asian            path to EastAsianWidth.txt\n\n"
    ++ "options:\n"
    ++ "  -h, --help            show this help message and exit\n"
    ++ "  -o OUTPUT, --output OUTPUT\n"
    ++ "                        output file (default: stdout)\n"
    ++ "  -v, --verbose\n"

/-- What a misuse prints. -/
def misuseText (m : Misuse) : String :=
  usage ++ programName ++ ": error: " ++ m.message ++ "\n"

/-! ## The run -/

/-- How a run ends: with both tables written, with the help printed, with a misuse reported, or with a
failure that nobody catches. -/
inductive Result where
  | done
  | helped
  | misused
  | failed (f : Generator.Failure)
  /-- Both tables are read and there is nothing to write them to. -/
  | noDestination
deriving DecidableEq

namespace Result

/-- The exit code of a run. -/
def exitCode : Result → Nat
  | done => 0
  | helped => 0
  | misused => 2
  | failed _ => 1
  | noDestination => 1

/-- The wording of a failure that nobody catches. -/
def message? : Result → Option String
  | failed f => some f.message
  | noDestination => some "'list' object has no attribute 'write'"
  | _ => none

end Result

/-- All that a run leaves behind. -/
structure Outcome where
  result : Result
  standardOutput : String
  standardError : String
  records : List Record
  files : List (List Char × List UInt8)
deriving DecidableEq

/-- What a source gives, and what is left of the standard input. -/
def gather (d : Disk) (input : Generator.Input) : Source → Generator.Input × Generator.Input
  | .file name => (Lines.read ((d.content? name).getD []), input)
  | .standardInput => (input, ([], none))
  | .empty => (([], none), input)

/-- Makes the tables from what has been opened. -/
def produce (s : Opened) (input : Generator.Input) : Outcome :=
  let derived := gather s.disk input s.derived
  let eastAsian := gather s.disk derived.2 s.eastAsian
  let p := Generator.generate derived.1 eastAsian.1
  let result := match p.failure with
    | none => .done
    | some f => .failed f
  match s.destination with
  | .standardOutput => ⟨result, p.text, "", p.records, s.disk.files⟩
  | .discard => ⟨result, "", "", p.records, s.disk.files⟩
  | .missing =>
    match Generator.readTables derived.1 eastAsian.1 with
    | .error f => ⟨.failed f, "", "", [], s.disk.files⟩
    | .ok (zero, wide) => ⟨.noDestination, "", "", Generator.summary zero wide, s.disk.files⟩
  | .file name =>
    ⟨result, "", "", p.records, (s.disk.setContent name (Utf8.encode p.text.toList)).files⟩

/-- Runs the program with its arguments, on a disk and with the lines of a standard input. -/
def run (args : List (List Char)) (disk : Disk) (input : Generator.Input) : Outcome :=
  let plan := planOf args
  let (s, stop) := follow (.start disk) plan.directives
  match stop, plan.misuse with
  | some .help, _ => ⟨.helped, helpText, "", [], s.disk.files⟩
  | some (.misuse m), _ => ⟨.misused, "", misuseText m, [], s.disk.files⟩
  | none, some m => ⟨.misused, "", misuseText m, [], s.disk.files⟩
  | none, none => produce s input

end CellWidth.CommandLine
