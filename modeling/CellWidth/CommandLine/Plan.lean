import CellWidth.CommandLine.Word
import CellWidth.Text.Quoted

/-!
# Plans

What the words of a command line ask for, in the order in which it is done. A plan can end in a
misuse: what comes before it is done nevertheless.
-/

namespace CellWidth.CommandLine

/-- The files of data that the program reads, in the order of its operands. -/
inductive Operand where
  | derived
  | eastAsian
deriving DecidableEq

/-- The name of an operand in messages. -/
def Operand.title : Operand → String
  | derived => "derived"
  | eastAsian => "east_asian"

/-- Why a command line is refused. -/
inductive Misuse where
  | ambiguous (a : Ambiguity)
  | valueExpected (f : Flag)
  /-- An option that takes no value was given one. -/
  | valueIgnored (f : Flag) (value : List Char)
  | missing (operands : List Operand)
  | unrecognized (words : List (List Char))
  /-- A file cannot be opened; the cause is that of the system. -/
  | cannotOpen (argument : String) (name : List Char) (cause : String)
  /-- The name of a file holds the character NUL. -/
  | badName (argument : String) (mode : String) (name : List Char)
deriving DecidableEq

/-- A text between quotes. -/
def quoted (t : List Char) : String :=
  String.ofList (Text.Quoted.write (t.map Char.toNat))

/-- The wording of a misuse. -/
def Misuse.message : Misuse → String
  | ambiguous a =>
    "ambiguous option: " ++ String.ofList a.word ++ " could match " ++ ", ".intercalate a.names
  | valueExpected f => "argument " ++ f.title ++ ": expected one argument"
  | valueIgnored f value =>
    "argument " ++ f.title ++ ": ignored explicit argument " ++ quoted value
  | missing operands =>
    "the following arguments are required: " ++ ", ".intercalate (operands.map Operand.title)
  | unrecognized words =>
    "unrecognized arguments: " ++ " ".intercalate (words.map String.ofList)
  | cannotOpen argument name cause =>
    "argument " ++ argument ++ ": can't open '" ++ String.ofList name ++ "': " ++ cause ++ ": "
      ++ quoted name
  | badName argument mode name =>
    "argument " ++ argument ++ ": invalid FileType('" ++ mode ++ "', encoding='utf-8') value: "
      ++ quoted name

/-- A step of a plan. -/
inductive Directive where
  /-- Opens a file of data. An operand without a name stands for a file without lines. -/
  | read (o : Operand) (name : Option (List Char))
  /-- Opens the file for the listings. Without a name there is nothing to write them to. -/
  | write (name : Option (List Char))
  | verbose
  | help
deriving DecidableEq

structure Plan where
  directives : List Directive
  misuse : Option Misuse
deriving DecidableEq

/-! ## Options in one word -/

/-- The options in one word: those without values, and the last one if it takes a value, which may be in
the word. -/
structure Cluster where
  flags : List Flag
  last : Option (Flag × Option (List Char))
deriving DecidableEq

/-- An option before others of the same word. -/
def Cluster.withFlag (f : Flag) (c : Cluster) : Cluster :=
  ⟨f :: c.flags, c.last⟩

/-- The options in a word that begins with the option `f` and goes on with `text`. After a short option
without a value the text holds further short options, with no sign between them; a character that is
none is refused with all that follows it. -/
def cluster (f : Flag) (long : Bool) : List Char → Except Misuse Cluster
  | [] => if f.takesValue then .ok ⟨[], some (f, some [])⟩ else .error (.valueIgnored f [])
  | c :: rest =>
    if f.takesValue then .ok ⟨[], some (f, some (c :: rest))⟩
    else if long then .error (.valueIgnored f (c :: rest))
    else match Flag.short? c with
      | none => .error (.valueIgnored f (c :: rest))
      | some g =>
        if rest = [] then .ok (if g.takesValue then ⟨[f], some (g, none)⟩ else ⟨[f, g], none⟩)
        else (cluster g false rest).map (.withFlag f)

/-- The options in a word. -/
def clusterOf (f : Flag) (long : Bool) : Option (List Char) → Except Misuse Cluster
  | none => .ok (if f.takesValue then ⟨[], some (f, none)⟩ else ⟨[f], none⟩)
  | some text => cluster f long text

/-- What an option without a value asks for. -/
def directiveOf : Flag → List Directive
  | .help => [.help]
  | .verbose => [.verbose]
  | .output => []

/-! ## The whole command line -/

/-- A plan as far as it has been made: the operands still expected, the words that fit nowhere, and the
directives, the last two in reverse. -/
structure Draft where
  expected : List Operand
  extras : List (List Char)
  directives : List Directive

namespace Draft

/-- Nothing has been planned. -/
def start : Draft := ⟨[.derived, .eastAsian], [], []⟩

/-- Adds directives. -/
def add (d : Draft) (more : List Directive) : Draft :=
  { d with directives := more.reverse ++ d.directives }

/-- Adds a word that fits nowhere. -/
def extra (d : Draft) (t : List Char) : Draft :=
  { d with extras := t :: d.extras }

/-- Ends the plan with a misuse. -/
def fail (d : Draft) (m : Misuse) : Plan :=
  ⟨d.directives.reverse, some m⟩

/-- Ends the plan. An operand that is missing is worse than words that fit nowhere. -/
def finish (d : Draft) : Plan :=
  match d.expected with
  | [] =>
    match d.extras with
    | [] => ⟨d.directives.reverse, none⟩
    | extras => d.fail (.unrecognized extras.reverse)
  | missing => d.fail (.missing missing)

/-- The word after which all words are operands. -/
def marker : List Char := ['-', '-']

/-- The name that an operand or a value gives: the marker gives none, also where it stands for one. -/
def nameOf (t : List Char) : Option (List Char) :=
  if t = marker then none else some t

/-- Takes an operand into the plan. -/
def takeOperand (d : Draft) (t : List Char) (name : Option (List Char)) : Draft :=
  match d.expected with
  | [] => d.extra t
  | o :: later => { d with expected := later }.add [.read o name]

/-- Whether operands are still expected. -/
def expectsMore (d : Draft) : Bool :=
  !d.expected.isEmpty

/-- Plans the rest of a command line. The marker goes with the operand before it or after it; where
there is neither, it fits nowhere. -/
def plan (d : Draft) : List Word → Plan
  | [] => d.finish
  | .operand t :: .marker :: rest =>
    if d.expectsMore then (d.takeOperand t (nameOf t)).plan rest
    else (d.extra t).plan (.marker :: rest)
  | .operand t :: rest => (d.takeOperand t (nameOf t)).plan rest
  | .marker :: .operand t :: rest =>
    if d.expectsMore then (d.takeOperand t (some t)).plan rest
    else (d.extra marker).plan (.operand t :: rest)
  | .marker :: rest => (d.extra marker).plan rest
  | .unknown t :: rest => (d.extra t).plan rest
  | .option f long attached :: rest =>
    match clusterOf f long attached with
    | .error m => d.fail m
    | .ok c =>
      let next := d.add (c.flags.flatMap directiveOf)
      match c.last, rest with
      | none, rest => next.plan rest
      | some (_, some v), rest => (next.add [.write (nameOf v)]).plan rest
      | some (_, none), .operand v :: rest => (next.add [.write (nameOf v)]).plan rest
      | some (g, none), _ => d.fail (.valueExpected g)
termination_by ws => ws.length

end Draft

/-- The plan of a command line. -/
def planOf (args : List (List Char)) : Plan :=
  match Word.classifyAll args with
  | .error a => ⟨[], some (.ambiguous a)⟩
  | .ok ws => Draft.start.plan ws

end CellWidth.CommandLine
