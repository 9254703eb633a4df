import CellWidth.Proofs.Documents
import CellWidth.Proofs.Resolution

/-!
# Saving a preference

A preference can be written unless the configuration root is a file or a folder stands at the path of
the preferences (`Root.IsWritable`). Either way the answer kept is forgotten, and the saving does not
break off; what differs is the disk.

* `Settings.save_of_isWritable` — the document is on the disk afterwards, whatever was there
* `Settings.save_of_not_isWritable` — nothing but the answer kept changes, and there is one error
* `Settings.save_read_back_or_unchanged` — what is read after either of them
-/

namespace CellWidth.Settings

open CellWidth.Text

variable {limit : Nat} {s : State} {b : Bool}

/-! ## Writing -/

namespace Root

variable {r : Root}

/-- Nothing stands in the way of writing the preferences. -/
def IsWritable (r : Root) : Prop :=
  r ≠ .file ∧ r.entry ≠ .folder

theorem store_of_isWritable (h : r.IsWritable) (bytes : List UInt8) :
    r.store bytes = .ok (.folder (.file bytes)) := by
  cases r with
  | absent => rfl
  | file => exact absurd rfl h.1
  | folder e =>
    cases e with
    | missing => rfl
    | folder => exact absurd rfl h.2
    | file old => rfl

theorem store_of_not_isWritable (h : ¬ r.IsWritable) (bytes : List UInt8) :
    ∃ o, r.store bytes = .error o := by
  cases r with
  | absent => exact absurd ⟨nofun, nofun⟩ h
  | file => exact ⟨.rootIsFile, rfl⟩
  | folder e =>
    cases e with
    | missing => exact absurd ⟨nofun, nofun⟩ h
    | folder => exact ⟨.entryIsFolder, rfl⟩
    | file old => exact absurd ⟨nofun, nofun⟩ h

end Root

/-- A preference that can be written replaces whatever was on the disk. -/
theorem save_of_isWritable (h : s.root.IsWritable) (b : Bool) :
    save b s =
      ⟨.ok (), { s with root := .folder (.file (Utf8.encode (document b))), cache := none }, []⟩ := by
  rw [save, Root.store_of_isWritable h]

/-- A preference that cannot be written leaves the disk as it is. -/
theorem save_of_not_isWritable (h : ¬ s.root.IsWritable) (b : Bool) :
    ∃ o, save b s = ⟨.ok (), { s with cache := none }, [.saveFailed o]⟩ := by
  obtain ⟨o, ho⟩ := Root.store_of_not_isWritable h (Utf8.encode (document b))
  exact ⟨o, by rw [save, ho]⟩

/-! ## Reading back -/

/-- The document of a preference on the disk is read without a trace. -/
theorem load_of_document (hlimit : 0 < limit)
    (h : s.root = .folder (.file (Utf8.encode (document b)))) : load limit s = ⟨.ok b, s, []⟩ := by
  rw [load, h]
  simp only [Root.entry, ofEntry, ofBytes_document hlimit]

theorem cached_of_document (hlimit : 0 < limit)
    (h : s.root = .folder (.file (Utf8.encode (document b)))) (hcache : s.cache = none) :
    cached limit s = ⟨.ok b, { s with cache := some b }, []⟩ := by
  have hload := load_of_document hlimit h
  rw [cached_of_load hcache (by rw [hload]), hload]

/-- Whatever the variable is when the preference is asked for: unless it says something, the document on
the disk decides. -/
theorem defaultSwitch_of_document (hlimit : 0 < limit)
    (h : s.root = .folder (.file (Utf8.encode (document b)))) (hcache : s.cache = none)
    (v : Option String) (hv : State.switch { s with variableText := v } = none) :
    (defaultSwitch limit { s with variableText := v }).outcome = .ok b := by
  rw [defaultSwitch_of_silent hv,
    cached_of_document (s := { s with variableText := v }) hlimit h hcache]

/-- **A preference that is saved is read back, and one that cannot be saved changes nothing.** In every
state the saving ends without breaking off, and nothing is kept afterwards. If nothing stands in the way
it logs nothing, the file is a document with this one member, and the file, the answer to be kept and
the default all give the preference, wherever the stack lets one object be opened; else it logs one error
and leaves the disk as it is. -/
theorem save_read_back_or_unchanged (s : State) (b : Bool) :
    (save b s).outcome = .ok () ∧
    (save b s).state.cache = none ∧
    (save b s).state.variableText = s.variableText ∧
    (s.root.IsWritable →
      (save b s).notices = [] ∧
      (∃ bytes t, (save b s).state.root = .folder (.file bytes) ∧ Utf8.decode bytes = .ok t ∧
        ∀ limit, 0 < limit → Json.parse limit t = .ok (.object [(memberName, .bool b)])) ∧
      ∀ limit, 0 < limit →
        load limit (save b s).state = ⟨.ok b, (save b s).state, []⟩ ∧
        cached limit (save b s).state = ⟨.ok b, { (save b s).state with cache := some b }, []⟩ ∧
        ∀ v, State.switch { (save b s).state with variableText := v } = none →
          (defaultSwitch limit { (save b s).state with variableText := v }).outcome = .ok b) ∧
    (¬ s.root.IsWritable →
      (save b s).notices.map (·.record.level) = [.error] ∧ (save b s).state.root = s.root) := by
  by_cases hwritable : s.root.IsWritable
  · have hsave := save_of_isWritable hwritable b
    -- All that is said of the step follows from what it is.
    generalize hstep : save b s = step at hsave ⊢
    subst hsave
    refine ⟨rfl, rfl, rfl, fun _ => ⟨rfl, ?_, fun limit hlimit => ⟨?_, ?_, ?_⟩⟩,
      fun hnot => absurd hwritable hnot⟩
    · exact ⟨_, document b, rfl, Utf8.decode_encode _, fun limit h => Json.parse_document h b⟩
    · exact load_of_document hlimit rfl
    · exact cached_of_document hlimit rfl rfl
    · intro v hv
      exact defaultSwitch_of_document hlimit rfl rfl v hv
  · obtain ⟨o, hsave⟩ := save_of_not_isWritable hwritable b
    rw [hsave]
    exact ⟨rfl, rfl, rfl, fun h => absurd h hwritable, fun _ => ⟨rfl, rfl⟩⟩

/-- The answer kept is forgotten also where nothing is written. -/
example :
    (save false ⟨none, .folder .folder, some true⟩).state = ⟨none, .folder .folder, none⟩ := by
  rfl

end CellWidth.Settings
