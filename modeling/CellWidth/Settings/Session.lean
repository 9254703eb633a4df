import CellWidth.Record
import CellWidth.Settings.Preference

/-!
# Settings in a running program

Whether text is measured in the legacy mode is decided by the caller, else by an environment variable,
else by the preference file. The file is read once and the answer kept; saving a preference, or asking
for it, makes the program forget the answer.

An action gives a value and the next state, and reports what went wrong on the way. Whatever goes wrong
with the variable or the file is passed over, with one exception: where the file is nested too deeply for
what the stack leaves, the action that has to read it breaks off. How many arrays and objects can be open
then is a limit that every action is given which may come to read the file.
-/

namespace CellWidth.Settings

open CellWidth.Text

/-! ## Reports -/

/-- Something that went wrong and was passed over. -/
inductive Notice where
  | variableIgnored (r : NotASwitch)
  | loadFailed (f : LoadFailure)
  | saveFailed (o : Obstacle)

namespace Notice

/-- What the log says before the cause of a failed reading. -/
def loadFailedText : String := "读取宽度配置失败: "

/-- What the log says before the cause of a failed writing. -/
def saveFailedText : String := "保存宽度配置失败: "

/-- The name of the environment variable. -/
def variableName : String := "TERMWIDTH_CJK"

/-- The record that a notice leaves in the log. -/
def record : Notice → Record
  | variableIgnored r => ⟨.warning, "termwidth", "Ignoring " ++ variableName ++ ": " ++ r.message⟩
  | loadFailed f => ⟨.error, "termwidth.prefs", loadFailedText ++ f.message⟩
  | saveFailed o => ⟨.error, "termwidth.prefs", saveFailedText ++ o.message⟩

end Notice

/-! ## Actions -/

/-- The state of the program and of what it reads: the variable, the disk, and the answer kept. -/
structure State where
  /-- The text of the variable, one of Unicode scalar values: bytes that are not UTF-8, and the surrogates
  that may stand for them, are left out. -/
  variableText : Option String
  root : Root
  cache : Option Bool
deriving DecidableEq

/-- Nothing is set and nothing is kept. -/
def State.initial : State := ⟨none, .absent, none⟩

/-- What comes of an action: its value, unless it broke off. -/
structure Step (α : Type) where
  outcome : Except Json.TooDeep α
  state : State
  notices : List Notice

/-- Something that the program does. -/
def Action (α : Type) : Type := State → Step α

namespace Action

/-- Does nothing but give a value. -/
def give {α : Type} (a : α) : Action α :=
  fun s => ⟨.ok a, s, []⟩

/-- One action after another, if the first does not break off. -/
def andThen {α β : Type} (x : Action α) (f : α → Action β) : Action β :=
  fun s =>
    let first := x s
    match first.outcome with
    | .error d => ⟨.error d, first.state, first.notices⟩
    | .ok a =>
      let second := f a first.state
      ⟨second.outcome, second.state, first.notices ++ second.notices⟩

instance : Monad Action where
  pure := give
  bind := andThen

@[simp] theorem pure_apply {α : Type} (a : α) (s : State) : (pure a : Action α) s = ⟨.ok a, s, []⟩ :=
  rfl

theorem bind_apply_ok {α β : Type} {x : Action α} {f : α → Action β} {s : State} {a : α}
    (h : (x s).outcome = .ok a) :
    (x >>= f) s =
      ⟨(f a (x s).state).outcome, (f a (x s).state).state,
        (x s).notices ++ (f a (x s).state).notices⟩ := by
  show andThen x f s = _
  simp only [andThen, h]

theorem bind_apply_error {α β : Type} {x : Action α} {f : α → Action β} {s : State}
    {d : Json.TooDeep} (h : (x s).outcome = .error d) :
    (x >>= f) s = ⟨.error d, (x s).state, (x s).notices⟩ := by
  show andThen x f s = _
  simp only [andThen, h]

end Action

/-! ## The preference file -/

/-- The preference on the disk. Every failure is reported and counts as off. -/
def load (limit : Nat) : Action Bool :=
  fun s =>
    match ofEntry limit s.root.entry with
    | .preference b => ⟨.ok b, s, []⟩
    | .failure f => ⟨.ok false, s, [.loadFailed f]⟩
    | .tooDeep d => ⟨.error d, s, []⟩

/-- Keeps a preference. -/
def keep (on : Bool) : Action Unit :=
  fun s => ⟨.ok (), { s with cache := some on }, []⟩

/-- The preference kept, or else the one on the disk, which is then kept. -/
def cached (limit : Nat) : Action Bool :=
  fun s =>
    match s.cache with
    | some b => ⟨.ok b, s, []⟩
    | none =>
      (do
        let b ← load limit
        keep b
        return b : Action Bool) s

/-- Forgets the preference kept. -/
def clear : Action Unit :=
  fun s => ⟨.ok (), { s with cache := none }, []⟩

/-- Writes a preference to the disk and forgets the one kept, also where the writing fails. -/
def save (on : Bool) : Action Unit :=
  fun s =>
    match s.root.store (Utf8.encode (document on)) with
    | .ok r => ⟨.ok (), { s with root := r, cache := none }, []⟩
    | .error o => ⟨.ok (), { s with cache := none }, [.saveFailed o]⟩

/-! ## Precedence -/

/-- What the environment variable says. A blank one says nothing; one that is not a switch is reported
and says nothing. -/
def variableSwitch : Action (Option Bool) :=
  fun s =>
    match s.variableText with
    | none => ⟨.ok none, s, []⟩
    | some raw =>
      if (trimBy isBlank (points raw)).isEmpty then ⟨.ok none, s, []⟩
      else match readSwitch (.string (points raw)) with
        | .ok b => ⟨.ok (some b), s, []⟩
        | .error r => ⟨.ok none, s, [.variableIgnored r]⟩

/-- The switch that holds where the caller says nothing. -/
def defaultSwitch (limit : Nat) : Action Bool := do
  match ← variableSwitch with
  | some b => pure b
  | none => cached limit

/-- The caller's switch, or else the default. -/
def resolve (limit : Nat) : Option Bool → Action Bool
  | some b => pure b
  | none => defaultSwitch limit

/-- A value as the caller's switch: null says nothing, any other value counts as true or false. -/
def resolveValue (limit : Nat) : Json.Value → Action Bool
  | .null => defaultSwitch limit
  | v => pure v.isTruthy

end CellWidth.Settings
