import CellWidth.Proofs.Measuring

/-!
# What a request does to the preference kept

A request reads the preference, or forgets the one kept, or does neither (`Request.Reads`,
`Request.Forgets`). It reads where it asks for the preference, or for the default while the variable
says nothing; whether a request to measure asks for the default depends on its text and its alignment.

* `Settings.Request.run_of_reads` — a request that reads uses what `cached` gives
* `Settings.Request.cache_of_reads`, `Settings.Request.cache_of_kept` — what a reading keeps
* `Settings.Request.cache_of_forgets`, `Settings.Request.cache_of_neither` — the other two kinds
-/

namespace CellWidth.Settings

open CellWidth.Text

/-! ## Three kinds of requests -/

namespace Request

variable {r : Request} {s : State} {a : Allowance} {b : Bool}

/-- The request is for the default, or leaves open a mode that matters. -/
def AsksDefault (r : Request) : Prop :=
  r = .defaultSwitch ∨ r = .resolve .null ∨ r.AsksMode

/-- The request needs the preference: it asks for it, or for the default while the variable says
nothing. -/
def Reads (s : State) (r : Request) : Prop :=
  r = .cached ∨ s.switch = none ∧ r.AsksDefault

/-- The request makes the program forget the preference kept. -/
def Forgets (r : Request) : Prop :=
  r = .clear ∨ ∃ on, r = .save on

/-- The answer to a request under a preference, with so much room. -/
def answerUnder (room : Layout.Room) (r : Request) (b : Bool) : Answer :=
  match r with
  | .cached => .switch b
  | .defaultSwitch => .switch b
  | .resolve _ => .switch b
  | r => r.measured room (.ofLegacy b)

theorem answerUnder_of_asksMode (h : r.AsksMode) (room : Layout.Room) (b : Bool) :
    r.answerUnder room b = r.measured room (.ofLegacy b) := by
  cases r with
  | textWidth t legacy => rfl
  | isWide c legacy => rfl
  | truncate t w e legacy => rfl
  | pad t w name fill legacy => rfl
  | _ => exact h.elim

/-- Whatever is asked, the default is settled once, and decides the answer. -/
theorem run_of_asksDefault (h : r.AsksDefault) :
    r.run a = Settings.defaultSwitch a.nesting >>= fun b => pure (r.answerUnder a.room b) := by
  rcases h with rfl | rfl | h
  · rfl
  · rfl
  · simp only [run_eq_of_asksMode h, answerUnder_of_asksMode h]

/-- The request is to measure. -/
def Measures : Request → Prop
  | textWidth _ _ | isWide _ _ | truncate _ _ _ _ | pad _ _ _ _ _ => True
  | _ => False

/-- A request to measure leaves open a mode that matters, or it does not. -/
theorem asksMode_or_isSettled (h : r.Measures) : r.AsksMode ∨ r.IsSettled := by
  cases hgiven : r.given with
  | some b => exact Or.inr (Or.inl (Option.isSome_iff_exists.mpr ⟨b, hgiven⟩))
  | none =>
    cases r with
    | textWidth t legacy =>
      obtain rfl : legacy = none := hgiven
      cases t with
      | nil => exact Or.inr (Or.inr (Or.inl ⟨none, rfl⟩))
      | cons c t => exact Or.inl (List.cons_ne_nil c t)
    | isWide c legacy =>
      obtain rfl : legacy = none := hgiven
      exact Or.inl trivial
    | truncate t w e legacy =>
      obtain rfl : legacy = none := hgiven
      exact Or.inl trivial
    | pad t w name fill legacy =>
      obtain rfl : legacy = none := hgiven
      cases ha : Layout.Align.parse? name with
      | none => exact Or.inr (Or.inr (Or.inr ⟨t, w, name, fill, none, rfl, ha⟩))
      | some a => exact Or.inl (Option.isSome_iff_exists.mpr ⟨a, ha⟩)
    | _ => exact h.elim

/-! ### What they keep -/

/-- A request that reads uses what `cached` gives, and its errors are those of `cached`. -/
theorem run_of_reads (h : r.Reads s) :
    ∃ ns, (∀ f, .loadFailed f ∉ ns) ∧
      r.run a s = ⟨(Settings.cached a.nesting s).outcome.map (r.answerUnder a.room),
        (Settings.cached a.nesting s).state, ns ++ (Settings.cached a.nesting s).notices⟩ := by
  rcases h with rfl | ⟨hsilent, hasks⟩
  · exact ⟨[], nofun, Action.bind_pure_apply (Settings.cached a.nesting) _ s⟩
  · obtain ⟨ns, hvariable, hns⟩ := variableSwitch_eq s
    refine ⟨ns, ?_, ?_⟩
    · rcases hns with rfl | ⟨-, refusal, rfl⟩
      · exact nofun
      · intro f hmem
        exact nomatch List.mem_singleton.mp hmem
    · rw [run_of_asksDefault hasks, Action.bind_pure_apply, defaultSwitch_of_silent hsilent,
        hvariable]

/-- Also where a preference cannot be saved, the one kept is forgotten. -/
theorem cache_of_forgets (h : r.Forgets) (s : State) : (r.run a s).state.cache = none := by
  rcases h with rfl | ⟨on, rfl⟩
  · rfl
  · show ((Settings.save on >>= fun _ => pure Answer.done) s).state.cache = none
    rw [Action.bind_pure_apply (f := fun _ => Answer.done), Settings.save]
    cases s.root.store (Utf8.encode (document on)) with
    | ok r => rfl
    | error o => rfl

/-- No request does both. -/
theorem not_reads_of_forgets (h : r.Forgets) : ¬ r.Reads s := by
  rcases h with rfl | ⟨on, rfl⟩
  · simp [Reads, AsksDefault, AsksMode]
  · simp [Reads, AsksDefault, AsksMode]

theorem not_reads_putFile (bytes : List UInt8) : ¬ (putFile bytes).Reads s := by
  simp [Reads, AsksDefault, AsksMode]

/-- Where the variable decides, the request leaves the state as it is. -/
theorem state_of_asksDefault (h : r.AsksDefault) (hr : ¬ r.Reads s) : (r.run a s).state = s := by
  cases hswitch : s.switch with
  | none => exact absurd (Or.inr ⟨hswitch, h⟩) hr
  | some b => rw [run_of_asksDefault h, Action.bind_pure_apply, defaultSwitch_of_switch hswitch]

/-- Measuring changes nothing, if the preference is not read for it. -/
theorem state_of_measures (hr : ¬ r.Reads s) (h : r.Measures) : (r.run a s).state = s := by
  rcases asksMode_or_isSettled h with h | h
  · exact state_of_asksDefault (Or.inr (Or.inr h)) hr
  · obtain ⟨answer, hanswer⟩ := run_of_isSettled h a.room
    rw [hanswer a.nesting, Action.pure_apply]

theorem cache_put (e : Entry) (s : State) : (put e s).state.cache = s.cache := by
  unfold put
  cases s.root.put e with
  | ok r => rfl
  | error o => rfl

theorem cache_assign (value : Option String) (s : State) :
    (assign value s).state.cache = s.cache := by
  unfold assign
  cases value with
  | none => rfl
  | some v =>
    simp only
    split
    · rfl
    · rfl

theorem cache_locate (create : Bool) (s : State) : (locate create s).state.cache = s.cache := by
  unfold locate
  cases create with
  | false => rfl
  | true =>
    simp only [if_true]
    cases s.root.makeFolders with
    | ok r => rfl
    | error o => rfl

/-- A request that neither reads nor forgets leaves the preference kept as it is. -/
theorem cache_of_neither (hr : ¬ r.Reads s) (hf : ¬ r.Forgets) :
    (r.run a s).state.cache = s.cache := by
  cases r with
  | setVariable value => exact cache_assign value s
  | putFile bytes => exact cache_put (.file bytes) s
  | putFolder => exact cache_put .folder s
  | removeEntry => rfl
  | block => rfl
  | unblock => rfl
  | readEntry => rfl
  | shape => rfl
  | path create => exact cache_locate create s
  | load =>
    show ((Settings.load a.nesting >>= fun b => pure (Answer.switch b)) s).state.cache = s.cache
    rw [Action.bind_pure_apply, load_state]
  | cached => exact absurd (Or.inl rfl) hr
  | clear => exact absurd (Or.inl rfl) hf
  | save on => exact absurd (Or.inr ⟨on, rfl⟩) hf
  | variableSwitch =>
    obtain ⟨ns, hvariable, -⟩ := variableSwitch_eq s
    show ((Settings.variableSwitch >>= fun o => pure (Answer.switch? o)) s).state.cache = s.cache
    rw [Action.bind_pure_apply, hvariable]
  -- What follows can ask for the default, but does not read: the variable decides.
  | defaultSwitch => rw [state_of_asksDefault (Or.inl rfl) hr]
  | resolve v =>
    cases v with
    | null => rw [state_of_asksDefault (Or.inr (Or.inl rfl)) hr]
    | _ => rfl
  | textWidth t legacy => rw [state_of_measures hr trivial]
  | isWide c legacy => rw [state_of_measures hr trivial]
  | truncate t w e legacy => rw [state_of_measures hr trivial]
  | pad t w name fill legacy => rw [state_of_measures hr trivial]

/-- What is kept stays, unless it is forgotten. -/
theorem cache_of_kept (hb : s.cache = some b) (hf : ¬ r.Forgets) :
    (r.run a s).state.cache = some b := by
  by_cases hr : r.Reads s
  · obtain ⟨ns, -, hrun⟩ := run_of_reads (a := a) hr
    rw [hrun, cached_of_kept hb, hb]
  · rw [cache_of_neither hr hf, hb]

/-- A reading fills what is empty, unless it breaks off. -/
theorem cache_of_reads (hr : r.Reads s) (hnone : s.cache = none) :
    (r.run a s).state.cache = (Settings.load a.nesting s).outcome.toOption := by
  obtain ⟨ns, -, hrun⟩ := run_of_reads hr
  cases hload : (Settings.load a.nesting s).outcome with
  | ok b => rw [hrun, cached_of_load hnone hload]; rfl
  | error d => rw [hrun, cached_of_breakOff hnone hload, hnone]; rfl

end Request

end CellWidth.Settings
