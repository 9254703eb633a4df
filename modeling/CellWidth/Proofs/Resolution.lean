import CellWidth.Settings.Session

/-!
# How the mode is settled

Three things decide the mode: the caller, the environment variable, the preference that is kept or else
read. Here is what each of them does to the state and to the log, in one equation each, so that nothing
later has to look into their definitions.

Only the last one can change the state, and only when nothing is kept: then the preference is read and
kept, unless the reading breaks off, as it does where the file is nested beyond the limit of the call. Only the variable gives a warning, and only the reading an error.

* `Settings.variableSwitch_eq` — the variable says what `State.switch` is, and changes nothing
* `Settings.load_cases` — the three ways in which the file can be read
* `Settings.cached_of_kept`, `Settings.cached_of_load`, `Settings.cached_of_breakOff` — the preference
* `Settings.logged_defaultSwitch` — at most one warning and one error
-/

namespace CellWidth.Settings

open CellWidth.Text

/-! ## Actions one after another -/

namespace Action

variable {α β γ : Type}

theorem andThen_give (x : Action α) : andThen x give = x := by
  funext s
  unfold andThen give
  rcases x s with ⟨⟨d⟩ | ⟨a⟩, s', ns⟩
  · rfl
  · simp only [List.append_nil]

/-- What is done and logged does not depend on how actions are grouped, also where one of them breaks
off. -/
theorem andThen_assoc (x : Action α) (f : α → Action β) (g : β → Action γ) :
    andThen (andThen x f) g = andThen x fun a => andThen (f a) g := by
  funext s
  unfold andThen
  rcases x s with ⟨⟨d⟩ | ⟨a⟩, s', ns⟩
  · rfl
  · simp only
    rcases f a s' with ⟨⟨d⟩ | ⟨b⟩, s'', ns'⟩
    · rfl
    · simp only [List.append_assoc]

end Action

/-- An action whose value is only renamed. -/
theorem Action.bind_pure_apply {α β : Type} (x : Action α) (f : α → β) (s : State) :
    (x >>= fun a => pure (f a)) s = ⟨(x s).outcome.map f, (x s).state, (x s).notices⟩ := by
  cases h : (x s).outcome with
  | error d =>
    rw [Action.bind_apply_error h]
    rfl
  | ok a =>
    rw [Action.bind_apply_ok h]
    simp only [Action.pure_apply, List.append_nil]
    rfl

instance : LawfulMonad Action :=
  LawfulMonad.mk' Action (fun x => Action.andThen_give x)
    (fun a f => rfl) (fun x f g => Action.andThen_assoc x f g)

variable {limit : Nat} {s : State} {b : Bool} {d : Json.TooDeep}

/-! ## The variable -/

/-- What the variable says: nothing where it is unset, blank, or no switch. -/
def State.switch (s : State) : Option Bool :=
  s.variableText.bind fun raw => readSwitch? (.string (points raw))

/-- A blank text is no word. -/
theorem readWord?_of_blank {t : List Nat} (h : (trimBy isBlank t).isEmpty = true) :
    readWord? t = none := by
  rw [readWord?, List.isEmpty_iff.mp h]
  rfl

/-- The variable is read without any effect but a warning where it is no switch. -/
theorem variableSwitch_eq (s : State) :
    ∃ ns, variableSwitch s = ⟨.ok s.switch, s, ns⟩ ∧
      (ns = [] ∨ s.switch = none ∧ ∃ r, ns = [.variableIgnored r]) := by
  unfold variableSwitch State.switch
  cases s.variableText with
  | none => exact ⟨[], rfl, Or.inl rfl⟩
  | some raw =>
    simp only [Option.bind_some]
    by_cases hblank : (trimBy isBlank (points raw)).isEmpty = true
    · have hnone : readSwitch? (.string (points raw)) = none := readWord?_of_blank hblank
      rw [if_pos hblank, hnone]
      exact ⟨[], rfl, Or.inl rfl⟩
    · rw [if_neg hblank, readSwitch]
      cases hswitch : readSwitch? (.string (points raw)) with
      | some b => exact ⟨[], rfl, Or.inl rfl⟩
      | none => exact ⟨_, rfl, Or.inr ⟨rfl, _, rfl⟩⟩

/-! ## The preference -/

/-- The file is read without any effect but an error where it cannot be read; where it is nested too
deeply the reading breaks off without one. -/
theorem load_cases (limit : Nat) (s : State) :
    (∃ b, load limit s = ⟨.ok b, s, []⟩) ∨
      (∃ f, load limit s = ⟨.ok false, s, [.loadFailed f]⟩) ∨ ∃ d, load limit s = ⟨.error d, s, []⟩ := by
  unfold load
  cases ofEntry limit s.root.entry with
  | preference b => exact Or.inl ⟨b, rfl⟩
  | failure f => exact Or.inr (Or.inl ⟨f, rfl⟩)
  | tooDeep d => exact Or.inr (Or.inr ⟨d, rfl⟩)

theorem load_state (limit : Nat) (s : State) : (load limit s).state = s := by
  rcases load_cases limit s with ⟨b, h⟩ | ⟨f, h⟩ | ⟨d, h⟩
  · rw [h]
  · rw [h]
  · rw [h]

/-- A reading that breaks off leaves no record. -/
theorem load_notices_of_breakOff (h : (load limit s).outcome = .error d) :
    (load limit s).notices = [] := by
  rcases load_cases limit s with ⟨b, hl⟩ | ⟨f, hl⟩ | ⟨d', hl⟩
  · rw [hl]
  · rw [hl] at h
    exact nomatch h
  · rw [hl]

theorem cached_of_kept (h : s.cache = some b) : cached limit s = ⟨.ok b, s, []⟩ := by
  unfold cached
  rw [h]

/-- The action that `cached` falls back to. -/
theorem cached_of_none (h : s.cache = none) :
    cached limit s = (load limit >>= fun b => keep b >>= fun _ => pure b) s := by
  unfold cached
  rw [h]

/-- Where nothing is kept, what is read is kept. -/
theorem cached_of_load (h : s.cache = none) (hb : (load limit s).outcome = .ok b) :
    cached limit s = ⟨.ok b, { s with cache := some b }, (load limit s).notices⟩ := by
  rw [cached_of_none h, Action.bind_apply_ok hb, load_state]
  show Step.mk _ _ ((load limit s).notices ++ []) = _
  rw [List.append_nil]
  rfl

/-- Where the reading breaks off, nothing is kept. -/
theorem cached_of_breakOff (h : s.cache = none) (hd : (load limit s).outcome = .error d) :
    cached limit s = ⟨.error d, s, []⟩ := by
  rw [cached_of_none h, Action.bind_apply_error hd, load_state, load_notices_of_breakOff hd]

/-! ## Precedence -/

/-- The variable comes first, and without a warning if it says something. -/
theorem defaultSwitch_of_switch (h : s.switch = some b) :
    defaultSwitch limit s = ⟨.ok b, s, []⟩ := by
  obtain ⟨ns, heq, hns⟩ := variableSwitch_eq s
  obtain rfl : ns = [] := by
    rcases hns with hns | ⟨hnone, -⟩
    · exact hns
    · rw [h] at hnone
      exact nomatch hnone
  rw [defaultSwitch, Action.bind_apply_ok (a := s.switch) (by rw [heq]), heq, h]
  rfl

/-- Where it says nothing, the preference is what counts. -/
theorem defaultSwitch_of_silent (h : s.switch = none) :
    defaultSwitch limit s =
      ⟨(cached limit s).outcome, (cached limit s).state,
        (variableSwitch s).notices ++ (cached limit s).notices⟩ := by
  obtain ⟨ns, heq, -⟩ := variableSwitch_eq s
  rw [defaultSwitch, Action.bind_apply_ok (a := s.switch) (by rw [heq]), heq, h]

theorem resolve_none (limit : Nat) : resolve limit none = defaultSwitch limit := rfl

theorem resolve_some (limit : Nat) (b : Bool) : resolve limit (some b) = pure b := rfl

/-! ## What is logged -/

/-- The number of records of a level that notices leave in the log. -/
def logged (l : Level) (ns : List Notice) : Nat :=
  ns.countP fun n => n.record.level == l

theorem logged_append (l : Level) (ns ms : List Notice) :
    logged l (ns ++ ms) = logged l ns + logged l ms :=
  List.countP_append

/-- The variable gives one warning at most, and no error. -/
theorem logged_variableSwitch (s : State) :
    logged .warning (variableSwitch s).notices ≤ 1 ∧
      logged .error (variableSwitch s).notices = 0 := by
  obtain ⟨ns, heq, hns⟩ := variableSwitch_eq s
  rw [heq]
  rcases hns with rfl | ⟨-, r, rfl⟩
  · exact ⟨Nat.zero_le 1, rfl⟩
  · exact ⟨Nat.le_refl 1, rfl⟩

/-- The reading of the file gives one error at most, and no warning. -/
theorem logged_load (limit : Nat) (s : State) :
    logged .warning (load limit s).notices = 0 ∧ logged .error (load limit s).notices ≤ 1 := by
  rcases load_cases limit s with ⟨b, h⟩ | ⟨f, h⟩ | ⟨d, h⟩
  · rw [h]
    exact ⟨rfl, Nat.zero_le 1⟩
  · rw [h]
    exact ⟨rfl, Nat.le_refl 1⟩
  · rw [h]
    exact ⟨rfl, Nat.zero_le 1⟩

/-- There are records of a reading only if there is a reading. -/
theorem cached_notices (limit : Nat) (s : State) :
    (cached limit s).notices = [] ∨ (cached limit s).notices = (load limit s).notices := by
  cases hcache : s.cache with
  | some b => exact Or.inl (by rw [cached_of_kept hcache])
  | none =>
    cases hload : (load limit s).outcome with
    | ok b => exact Or.inr (by rw [cached_of_load hcache hload])
    | error d => exact Or.inl (by rw [cached_of_breakOff hcache hload])

/-- **Settling the mode gives one warning at most and one error at most.** -/
theorem logged_defaultSwitch (limit : Nat) (s : State) :
    logged .warning (defaultSwitch limit s).notices ≤ 1 ∧
      logged .error (defaultSwitch limit s).notices ≤ 1 := by
  cases hswitch : s.switch with
  | some b =>
    rw [defaultSwitch_of_switch hswitch]
    exact ⟨Nat.zero_le 1, Nat.zero_le 1⟩
  | none =>
    obtain ⟨hwarning, herror⟩ := logged_variableSwitch s
    obtain ⟨hnone, hone⟩ := logged_load limit s
    rw [defaultSwitch_of_silent hswitch]
    simp only [logged_append]
    rcases cached_notices limit s with h | h
    · rw [h]
      exact ⟨hwarning, by rw [herror]; exact Nat.zero_le 1⟩
    · rw [h]
      omega

end CellWidth.Settings
