import CellWidth.Text.DecimalDigit

/-!
# Words of the command line

A word is an operand, an option, or the marker `--` after which all words are operands. An option can
carry a value in the same word: after an equals sign, or right after the letter of a short option. A
long option may be cut short as long as no other begins so.

A word that begins like an option is an operand still if it is a minus sign alone, a negative number,
or holds a space and no option; otherwise it is unknown.
-/

namespace CellWidth.CommandLine

inductive Flag where
  | help
  | output
  | verbose
deriving DecidableEq

namespace Flag

/-- The names of the options, with whether they are long ones. -/
def names : List (String × Bool × Flag) :=
  [("-h", false, help), ("--help", true, help), ("-o", false, output), ("--output", true, output),
    ("-v", false, verbose), ("--verbose", true, verbose)]

/-- Both names of an option, as messages show them. -/
def title : Flag → String
  | help => "-h/--help"
  | output => "-o/--output"
  | verbose => "-v/--verbose"

/-- Whether an option needs a value. -/
def takesValue : Flag → Bool
  | output => true
  | _ => false

/-- The option with a name. -/
def named? (t : List Char) : Option (Bool × Flag) :=
  (names.find? fun n => n.1.toList == t).map (·.2)

/-- The option with a short name of one letter. -/
def short? (c : Char) : Option Flag :=
  (named? ['-', c]).bind fun n => if n.1 then none else some n.2

end Flag

inductive Word where
  | operand (t : List Char)
  | marker
  /-- An option, and what follows it in its word. -/
  | option (f : Flag) (long : Bool) (attached : Option (List Char))
  | unknown (t : List Char)
deriving DecidableEq

/-- A word that could be more than one option. -/
structure Ambiguity where
  word : List Char
  names : List String
deriving DecidableEq

namespace Word

/-- The text before the first equals sign, and the text after it if there is one. -/
def splitEquals : List Char → List Char × Option (List Char)
  | [] => ([], none)
  | c :: rest =>
    if c = '=' then ([], some rest)
    else
      let s := splitEquals rest
      (c :: s.1, s.2)

/-- What a word can stand for, besides the options whose names it gives in full. -/
def candidates (t : List Char) : List (String × Word) :=
  match t with
  | '-' :: '-' :: _ =>
    let (name, value) := splitEquals t
    (Flag.names.filter fun n => name.isPrefixOf n.1.toList).map fun n =>
      (n.1, .option n.2.2 n.2.1 value)
  | _ =>
    (Flag.names.filter fun n => n.1.toList == t.take 2).map fun n =>
      (n.1, .option n.2.2 n.2.1 (some (t.drop 2)))

/-- Whether a character is a decimal digit of any script. -/
def isDigit (c : Char) : Bool :=
  (Text.decimalValue c.toNat).isSome

/-- Whether a text is a number with a minus sign, and at most a line feed after it. -/
def isNegativeNumber (t : List Char) : Bool :=
  match t with
  | '-' :: rest =>
    let body := if rest.getLast? = some '\n' then rest.dropLast else rest
    let tail := body.dropWhile isDigit
    match tail with
    | [] => !body.isEmpty
    | '.' :: frac => !frac.isEmpty && frac.all isDigit
    | _ => false
  | _ => false

/-- What a word without an option in it is. -/
def plain (t : List Char) : Word :=
  if isNegativeNumber t || t.contains ' ' then .operand t else .unknown t

/-- What a word that begins with a minus sign and something else is. -/
def classifyOption (t : List Char) : Except Ambiguity Word :=
  match Flag.named? t with
  | some (long, f) => .ok (.option f long none)
  | none =>
    let (name, value) := splitEquals t
    match value, Flag.named? name with
    | some v, some (long, f) => .ok (.option f long (some v))
    | _, _ =>
      match candidates t with
      | [] => .ok (plain t)
      | [c] => .ok c.2
      | cs => .error ⟨t, cs.map (·.1)⟩

/-- What a word before the marker is. -/
def classify (t : List Char) : Except Ambiguity Word :=
  match t with
  | '-' :: _ :: _ => classifyOption t
  | _ => .ok (.operand t)

/-- The words of a command line, or the first that could be more than one option. -/
def classifyAll : List (List Char) → Except Ambiguity (List Word)
  | [] => .ok []
  | t :: rest =>
    if t = ['-', '-'] then .ok (.marker :: rest.map .operand)
    else
      match classify t with
      | .error a => .error a
      | .ok w =>
        match classifyAll rest with
        | .error a => .error a
        | .ok ws => .ok (w :: ws)

end Word

end CellWidth.CommandLine
