import CellWidth.Proofs.Snapshot

/-!
# What is left alone

Of the three parts of a state, the environment variable and the disk are shared with other programs, and
the preference kept is not. An action that changes no more than the last is inward (`Action.IsInward`);
actions one after another are inward if each of them is, and however they end. All requests are inward
but those that set the variable (`Request.SetsVariable`) and those that have to do with the disk by their
meaning (`Request.ChangesDisk`): saving, asking for the path with the folders made, and what happens from
outside.

So measuring and loading leave no footprint: in a session the disk stays as it is from one call that
changes it to the next, whatever is on it, and whether the calls in between end or break off.

* `Request.isInward_run` — the requests that leave variable and disk alone
* `Request.locate_cases` — what asking for the path does where the folders are to be made
* `Settings.stateAt_unchanged` — from one call to a whole stretch of a session
* `Settings.footprint_of_session` — what changes in a session, and through which requests
-/

namespace CellWidth.Settings

/-! ## Inward actions -/

namespace Action

variable {α β : Type} {x : Action α}

/-- The action leaves the variable and the disk as they are, also where it breaks off. -/
def IsInward (x : Action α) : Prop :=
  ∀ s, (x s).state.variableText = s.variableText ∧ (x s).state.root = s.root

theorem IsInward.pure (a : α) : IsInward (pure a : Action α) :=
  fun _ => ⟨rfl, rfl⟩

/-- Inward actions one after another are inward, also where the first breaks off and the second is not
run. -/
theorem IsInward.bind {f : α → Action β} (hx : IsInward x) (hf : ∀ a, IsInward (f a)) :
    IsInward (x >>= f) := by
  intro s
  cases h : (x s).outcome with
  | error d =>
    rw [bind_apply_error h]
    exact hx s
  | ok a =>
    rw [bind_apply_ok h]
    exact ⟨(hf a _).1.trans (hx s).1, (hf a _).2.trans (hx s).2⟩

/-- Renaming the value of an action changes nothing else. -/
theorem IsInward.map (hx : IsInward x) (f : α → β) :
    IsInward (x >>= fun a => Pure.pure (f a)) :=
  hx.bind fun a => .pure (f a)

/-- An action that changes nothing at all is inward. -/
theorem IsInward.of_state (h : ∀ s, (x s).state = s) : IsInward x := by
  intro s
  rw [h s]
  exact ⟨rfl, rfl⟩

end Action

open CellWidth.Settings.Action

variable (limit : Nat) (room : Layout.Room) (t : List Char) (w : Int) (e fill : List Char)
  (name : String) (legacy : Option Bool)

theorem isInward_load : IsInward (load limit) :=
  .of_state (load_state limit)

theorem isInward_variableSwitch : IsInward variableSwitch := by
  refine .of_state fun s => ?_
  obtain ⟨ns, heq, -⟩ := variableSwitch_eq s
  rw [heq]

/-- The preference kept is the one thing that reading it can change. -/
theorem isInward_cached : IsInward (cached limit) := by
  intro s
  cases hcache : s.cache with
  | some b =>
    rw [cached_of_kept hcache]
    exact ⟨rfl, rfl⟩
  | none =>
    cases hload : (load limit s).outcome with
    | ok b =>
      rw [cached_of_load hcache hload]
      exact ⟨rfl, rfl⟩
    | error d =>
      rw [cached_of_breakOff hcache hload]
      exact ⟨rfl, rfl⟩

theorem isInward_clear : IsInward clear :=
  fun _ => ⟨rfl, rfl⟩

/-- To settle the mode is to look at the variable and then maybe at the file. -/
theorem isInward_defaultSwitch : IsInward (defaultSwitch limit) := by
  refine isInward_variableSwitch.bind fun on => ?_
  cases on with
  | some b => exact .pure b
  | none => exact isInward_cached limit

theorem isInward_resolve : IsInward (resolve limit legacy) := by
  cases legacy with
  | some b => exact .pure b
  | none => exact isInward_defaultSwitch limit

theorem isInward_resolveValue (v : Json.Value) : IsInward (resolveValue limit v) := by
  cases v with
  | null => exact isInward_defaultSwitch limit
  | _ => exact .pure _

theorem isInward_mode : IsInward (mode limit legacy) :=
  (isInward_resolve limit legacy).map Mode.ofLegacy

/-! ### Measuring -/

theorem isInward_textWidth : IsInward (textWidth limit t legacy) := by
  unfold textWidth
  split
  · exact .pure 0
  · exact (isInward_mode limit legacy).map _

theorem isInward_isWide (c : Symbol) : IsInward (isWide limit c legacy) :=
  (isInward_mode limit legacy).map _

/-- A cut settles the mode and then only computes. -/
theorem isInward_truncate : IsInward (truncate limit t w e legacy) := by
  rw [truncate_eq]
  exact (isInward_mode limit legacy).map _

/-- So does filling up, but for a name that is no alignment, which is refused at once. -/
theorem isInward_pad : IsInward (pad limit room t w name fill legacy) := by
  cases ha : Layout.Align.parse? name with
  | none =>
    rw [pad_of_parse?_eq_none limit room t w fill name ha]
    exact .pure _
  | some a =>
    rw [pad_eq limit room t w fill name ha]
    exact (isInward_mode limit legacy).map _

/-! ## The folders that are made -/

namespace Root

variable {before after : Root}

/-- Folders that were missing have been made, at most. -/
def GainsFolders (before after : Root) : Prop :=
  after = before ∨ before = .absent ∧ after = .folder .missing

/-- Where folders have been made at most, every file is where it was and as it was. -/
theorem GainsFolders.files (h : GainsFolders before after) :
    after.entry = before.entry ∧ (after = .file ↔ before = .file) := by
  rcases h with rfl | ⟨rfl, rfl⟩
  · exact ⟨rfl, Iff.rfl⟩
  · exact ⟨rfl, by simp⟩

/-- Making the folders adds what is missing, or fails. -/
theorem makeFolders_cases (r : Root) :
    (∃ made, r.makeFolders = .ok made ∧ r.GainsFolders made) ∨ ∃ o, r.makeFolders = .error o := by
  cases r with
  | absent => exact Or.inl ⟨_, rfl, Or.inr ⟨rfl, rfl⟩⟩
  | file => exact Or.inr ⟨_, rfl⟩
  | folder e => exact Or.inl ⟨_, rfl, Or.inl rfl⟩

end Root

/-! ## Requests -/

namespace Request

variable {r : Request} {s : State} {a : Allowance}

/-- The request is to set or unset the variable. -/
def SetsVariable : Request → Prop
  | setVariable _ => True
  | _ => False

/-- The request can change the disk: it saves a preference, or asks for the path with the folders made,
or stands for what happens from outside. -/
def ChangesDisk : Request → Prop
  | putFile _ | putFolder | removeEntry | block | unblock | path true | save _ => True
  | _ => False

/-- **Which requests leave variable and disk alone:** all but those that are about them. -/
theorem isInward_run (hv : ¬r.SetsVariable) (hd : ¬r.ChangesDisk) : IsInward (r.run a) := by
  cases r with
  | setVariable value => exact absurd trivial hv
  | putFile bytes => exact absurd trivial hd
  | putFolder => exact absurd trivial hd
  | removeEntry => exact absurd trivial hd
  | block => exact absurd trivial hd
  | unblock => exact absurd trivial hd
  | readEntry => exact fun _ => ⟨rfl, rfl⟩
  | shape => exact fun _ => ⟨rfl, rfl⟩
  | path create =>
    cases create with
    | true => exact absurd trivial hd
    | false => exact fun _ => ⟨rfl, rfl⟩
  | load => exact (isInward_load a.nesting).map _
  | cached => exact (isInward_cached a.nesting).map _
  | clear => exact isInward_clear.map _
  | save on => exact absurd trivial hd
  | variableSwitch => exact isInward_variableSwitch.map _
  | defaultSwitch => exact (isInward_defaultSwitch a.nesting).map _
  | resolve v => exact (isInward_resolveValue a.nesting v).map _
  | textWidth t legacy => exact (isInward_textWidth a.nesting t legacy).map _
  | isWide c legacy => exact (isInward_isWide a.nesting legacy c).map _
  | truncate t w e legacy => exact (isInward_truncate a.nesting t w e legacy).map _
  | pad t w name fill legacy =>
    refine (isInward_pad a.nesting a.room t w fill name legacy).bind fun padded => ?_
    cases padded with
    | ok padded => exact .pure _
    | error e => exact .pure _

/-- Asking for the path with the folders made: they are there afterwards, or nothing has happened. -/
theorem locate_cases (s : State) :
    (∃ made, s.root.GainsFolders made ∧
      locate true s = ⟨.ok (.text Location.relativePath), { s with root := made }, []⟩) ∨
    ∃ o, locate true s = ⟨.ok (.refused (.obstacle o)), s, []⟩ := by
  rcases s.root.makeFolders_cases with ⟨made, hmade, hgains⟩ | ⟨o, ho⟩
  · exact Or.inl ⟨made, hgains, by rw [locate, if_pos rfl, hmade]⟩
  · exact Or.inr ⟨o, by rw [locate, if_pos rfl, ho]⟩

/-- Writing the file is no matter of the variable, whether or not it succeeds. -/
theorem variableText_save (on : Bool) (s : State) :
    (Settings.save on s).state.variableText = s.variableText := by
  unfold Settings.save
  cases s.root.store (Text.Utf8.encode (document on)) with
  | ok r => rfl
  | error o => rfl

theorem variableText_put (entry : Entry) (s : State) :
    (put entry s).state.variableText = s.variableText := by
  unfold put
  cases s.root.put entry with
  | ok r => rfl
  | error o => rfl

theorem variableText_locate (s : State) : (locate true s).state.variableText = s.variableText := by
  rcases locate_cases s with ⟨made, -, h⟩ | ⟨o, h⟩
  · rw [h]
  · rw [h]

/-- Only setting the variable changes it. -/
theorem variableText_run (hv : ¬r.SetsVariable) (s : State) :
    (r.run a s).state.variableText = s.variableText := by
  -- What is not about the disk is inward; of the rest none looks at the variable.
  by_cases hd : r.ChangesDisk
  · cases r with
    | putFile bytes => exact variableText_put (.file bytes) s
    | putFolder => exact variableText_put .folder s
    | removeEntry => rfl
    | block => rfl
    | unblock => rfl
    | path create =>
      cases create with
      | true => exact variableText_locate s
      | false => exact hd.elim
    | save on =>
      show ((Settings.save on >>= fun _ => pure Answer.done) s).state.variableText = s.variableText
      rw [Action.bind_pure_apply (f := fun _ => Answer.done)]
      exact variableText_save on s
    | _ => exact hd.elim
  · exact (isInward_run hv hd s).1

/-- Setting the variable is no matter of the disk, also where the text is refused. -/
theorem root_assign (value : Option String) (s : State) : (assign value s).state.root = s.root := by
  unfold assign
  cases value with
  | none => rfl
  | some v =>
    simp only
    split
    · rfl
    · rfl

/-- Only the requests that are about the disk change it. -/
theorem root_run (hd : ¬r.ChangesDisk) (s : State) : (r.run a s).state.root = s.root := by
  by_cases hv : r.SetsVariable
  · cases r with
    | setVariable value => exact root_assign value s
    | _ => exact hv.elim
  · exact (isInward_run hv hd s).2

end Request

/-! ## Sessions -/

section Sessions

variable {α : Type} {s : State} {cs : List Call} {i : Nat}

/-- What no call of a kind changes is the same after a stretch of a session with calls of that kind. -/
theorem stateAt_unchanged {part : State → α} {changes : Request → Prop}
    (hstep : ∀ c : Call, ¬changes c.request → ∀ s, part (c.run s).state = part s) :
    ∀ j, i ≤ j → j ≤ cs.length →
      (∀ k c, i ≤ k → k < j → cs[k]? = some c → ¬changes c.request) →
      part (stateAt s cs j) = part (stateAt s cs i)
  | 0, hij, _, _ => by rw [Nat.le_zero.mp hij]
  | j + 1, hij, hj, hnone => by
    rcases Nat.lt_or_eq_of_le hij with hlt | rfl
    · have hle : i ≤ j := Nat.le_of_lt_succ hlt
      have hc : cs[j]? = some cs[j] := List.getElem?_eq_getElem hj
      have hbefore := stateAt_unchanged hstep j hle (Nat.le_of_lt hj) fun k c hik hkj =>
        hnone k c hik (Nat.lt_succ_of_lt hkj)
      rw [stateAt_succ hc, hstep _ (hnone j _ hle (Nat.lt_succ_self j) hc), hbefore]
    · rfl

end Sessions

/-- **What changes in a session, and through which calls.** The session starts in any state. The variable
changes only where it is set or unset, and the disk only through the requests that are about it. Asking
for the path with the folders made adds folders that are missing and nothing else: every file is where it
was and as it was, and so is the preference kept; where no path is given, the whole state is as it was.
So over a stretch of calls that are to load, to give the preference, to forget it, to settle the mode, to
measure or to give the path alone, however many of them and whatever is on the disk, the disk stays as it
is, and no folder comes to be there. -/
theorem footprint_of_session (s : State) (cs : List Call) :
    (∀ i : Fin cs.length, ∃ step, (session s cs)[i.val]? = some step ∧
      (step.state.variableText ≠ (stateAt s cs i).variableText → (cs.get i).request.SetsVariable) ∧
      (step.state.root ≠ (stateAt s cs i).root → (cs.get i).request.ChangesDisk) ∧
      ((cs.get i).request = .path true →
        (stateAt s cs i).root.GainsFolders step.state.root ∧
        step.state.root.entry = (stateAt s cs i).root.entry ∧
        (step.state.root = .file ↔ (stateAt s cs i).root = .file) ∧
        step.state.cache = (stateAt s cs i).cache ∧
        (step.outcome ≠ .ok (.text Location.relativePath) → step.state = stateAt s cs i))) ∧
    (∀ i j : Nat, i ≤ j → j ≤ cs.length →
      ((∀ k c, i ≤ k → k < j → cs[k]? = some c → ¬c.request.SetsVariable) →
        (stateAt s cs j).variableText = (stateAt s cs i).variableText) ∧
      ((∀ k c, i ≤ k → k < j → cs[k]? = some c → ¬c.request.ChangesDisk) →
        (stateAt s cs j).root = (stateAt s cs i).root ∧
        (stateAt s cs j).root.hasFolder = (stateAt s cs i).root.hasFolder)) := by
  refine ⟨fun i => ?_, fun i j hij hj => ⟨?_, fun hnone => ?_⟩⟩
  · have hc : cs[i.val]? = some (cs.get i) := List.getElem?_eq_getElem i.isLt
    refine ⟨(cs.get i).run (stateAt s cs i), by rw [session_getElem?, hc]; rfl, ?_, ?_, ?_⟩
    · exact fun hne => Classical.byContradiction fun hv => hne (Request.variableText_run hv _)
    · exact fun hne => Classical.byContradiction fun hd => hne (Request.root_run hd _)
    · intro hpath
      rw [Call.run, hpath, Request.run]
      rcases Request.locate_cases (stateAt s cs i) with ⟨made, hgains, h⟩ | ⟨o, h⟩
      · rw [h]
        exact ⟨hgains, hgains.files.1, hgains.files.2, rfl, fun hne => absurd rfl hne⟩
      · rw [h]
        exact ⟨Or.inl rfl, rfl, Iff.rfl, rfl, fun _ => rfl⟩
  · exact stateAt_unchanged (fun _ hv s => Request.variableText_run hv s) j hij hj
  · have hroot : (stateAt s cs j).root = (stateAt s cs i).root :=
      stateAt_unchanged (fun _ hd s => Request.root_run hd s) j hij hj hnone
    exact ⟨hroot, congrArg Root.hasFolder hroot⟩

/-- Measuring and loading with nothing on the disk make no folder, and asking for the path makes them
only if it is told to. -/
example :
    let call (r : Request) : Call := ⟨r, 1, 0, 0, 0, 0⟩
    let requests := [.textWidth ['a'] none, .load, .path false, .path true, .cached]
    (session .initial (requests.map call)).map (·.state.root.hasFolder) =
      [false, false, false, true, true] := by
  rfl

end CellWidth.Settings
