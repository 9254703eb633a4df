import CellWidth.Proofs.Documents
import CellWidth.Proofs.Loading
import CellWidth.Proofs.Measuring

/-!
# One mode for each call

A call that leaves the mode open can be taken apart: the mode is settled first, and the call is made with
the mode given. Whether this comes to the same depends on the file alone, and on the file only where it has
to be read (`State.NeedsFile`), since the two calls that come to read it need not have the same of the stack
left. Within the limits of both it is the same in everything, and beyond both it breaks off in the same state
and with the same records. Between the limits one of them has an answer and the other has not.

* `Settings.defaultSwitch_eq_defaultSwitch` — within both limits
* `Settings.defaultSwitch_breaksOff_iff`, `Settings.defaultSwitch_of_breakOff` — beyond a limit
* `Settings.Request.one_mode_for_each_call` — the calls
* `Settings.Request.settled_apart_between_limits` — a file between the limits
-/

namespace CellWidth.Settings

open CellWidth.Text

variable {limit limit' : Nat} {s : State}

/-! ## The settling of the mode -/

/-- The mode hangs on the file: the variable says nothing, and no preference is kept. -/
def State.NeedsFile (s : State) : Prop :=
  s.switch = none ∧ s.cache = none

/-- Where the file is not needed, the limit makes no difference, and there is an answer. -/
theorem defaultSwitch_of_not_needsFile (h : ¬ s.NeedsFile) :
    ∃ b ns, ∀ limit, defaultSwitch limit s = ⟨.ok b, s, ns⟩ := by
  cases hswitch : s.switch with
  | some b => exact ⟨b, [], fun _ => defaultSwitch_of_switch hswitch⟩
  | none =>
    cases hcache : s.cache with
    | some b =>
      refine ⟨b, (variableSwitch s).notices ++ [], fun limit => ?_⟩
      rw [defaultSwitch_of_silent hswitch, cached_of_kept hcache]
    | none => exact absurd ⟨hswitch, hcache⟩ h

/-- **Within both limits** the mode is settled alike. -/
theorem defaultSwitch_eq_defaultSwitch
    (h : s.NeedsFile → ¬ s.root.entry.NestsBeyond limit ∧ ¬ s.root.entry.NestsBeyond limit') :
    defaultSwitch limit s = defaultSwitch limit' s := by
  by_cases hfile : s.NeedsFile
  · obtain ⟨hswitch, hcache⟩ := hfile
    obtain ⟨hshallow, hshallow'⟩ := h ⟨hswitch, hcache⟩
    have hload : load limit s = load limit' s := by
      rw [load, load, ofEntry_eq_ofEntry hshallow hshallow']
    have hcached : cached limit s = cached limit' s := by
      cases houtcome : (load limit s).outcome with
      | ok b => rw [cached_of_load hcache houtcome, cached_of_load hcache (hload ▸ houtcome), hload]
      | error d => exact absurd (load_breaksOff_iff.mp ⟨d, houtcome⟩) hshallow
    rw [defaultSwitch_of_silent hswitch, defaultSwitch_of_silent hswitch, hcached]
  · obtain ⟨b, ns, heq⟩ := defaultSwitch_of_not_needsFile hfile
    rw [heq, heq]

/-- **Beyond a limit** the settling breaks off, and leaves the state as it was. -/
theorem defaultSwitch_of_breakOff (hfile : s.NeedsFile) (h : s.root.entry.NestsBeyond limit) :
    ∃ d, defaultSwitch limit s = ⟨.error d, s, (variableSwitch s).notices⟩ := by
  obtain ⟨d, hload⟩ := load_of_nestsBeyond h
  have hcached := cached_of_breakOff (d := d) hfile.2 (by rw [hload])
  exact ⟨d, by rw [defaultSwitch_of_silent hfile.1, hcached, List.append_nil]⟩

/-- Anywhere else there is an answer. -/
theorem exists_defaultSwitch_eq_ok (h : s.NeedsFile → ¬ s.root.entry.NestsBeyond limit) :
    ∃ b, (defaultSwitch limit s).outcome = .ok b := by
  by_cases hfile : s.NeedsFile
  · cases houtcome : (load limit s).outcome with
    | ok b => exact ⟨b, by rw [defaultSwitch_of_silent hfile.1, cached_of_load hfile.2 houtcome]⟩
    | error d => exact absurd (load_breaksOff_iff.mp ⟨d, houtcome⟩) (h hfile)
  · obtain ⟨b, ns, heq⟩ := defaultSwitch_of_not_needsFile hfile
    exact ⟨b, by rw [heq]⟩

/-- **The settling breaks off where the file is needed and is nested beyond the limit**, and only there. -/
theorem defaultSwitch_breaksOff_iff :
    (∃ d, (defaultSwitch limit s).outcome = .error d) ↔
      s.NeedsFile ∧ s.root.entry.NestsBeyond limit := by
  constructor
  · rintro ⟨d, hd⟩
    by_contra hnot
    obtain ⟨b, hb⟩ := exists_defaultSwitch_eq_ok fun hfile hdeep => hnot ⟨hfile, hdeep⟩
    rw [hb] at hd
    cases hd
  · rintro ⟨hfile, h⟩
    obtain ⟨d, heq⟩ := defaultSwitch_of_breakOff hfile h
    exact ⟨d, by rw [heq]⟩

/-! ## Calls -/

/-- To rename a value does not change whether there is one. -/
theorem map_eq_error_iff {α β ε : Type} (f : α → β) (x : Except ε α) :
    (∃ e, x.map f = .error e) ↔ ∃ e, x = .error e := by
  cases x with
  | ok a => exact ⟨fun ⟨_, h⟩ => absurd h nofun, fun ⟨_, h⟩ => absurd h nofun⟩
  | error e => exact ⟨fun _ => ⟨e, rfl⟩, fun _ => ⟨e, rfl⟩⟩

namespace Request

variable {r : Request} {a : Allowance}

/-- A call taken apart is the settling of the mode and the answer in it. -/
theorem run_apart (h : r.AsksMode) (n : Nat) (s : State) :
    (Settings.resolve n none >>= fun on => (r.withSwitch on).run a) s =
      ⟨(Settings.defaultSwitch n s).outcome.map fun b => r.measured a.room (.ofLegacy b),
        (Settings.defaultSwitch n s).state, (Settings.defaultSwitch n s).notices⟩ := by
  simp only [resolve_none, run_withSwitch h]
  exact Action.bind_pure_apply _ _ s

/-- The call itself settles the mode with what is left to it. -/
theorem run_whole (h : r.AsksMode) (s : State) :
    r.run a s =
      ⟨(Settings.defaultSwitch a.nesting s).outcome.map fun b => r.measured a.room (.ofLegacy b),
        (Settings.defaultSwitch a.nesting s).state,
        (Settings.defaultSwitch a.nesting s).notices⟩ := by
  rw [run_eq_of_asksMode h, Action.bind_pure_apply]

/-- **One mode for each call.** A call that leaves open a mode that matters is compared with the settling of
the mode and then the same call with the mode given. Unless the file has to be read, and is nested beyond
the limit of one of them, they are the same: the same answer, the same state and the same log. Beyond its
limit, and only there, each of them breaks off; where both do, the state and the log are the same. There is
one warning and one error at most.

A call with the mode given, or one for which no mode matters, has one answer in all states, however little
of the stack is left, and leaves them as they are and the log empty; a name that is no alignment is always
refused. -/
theorem one_mode_for_each_call (r : Request) (a : Allowance) (n : Nat) :
    (r.AsksMode → ∀ s,
      let apart := (Settings.resolve n none >>= fun on => (r.withSwitch on).run a) s
      ((s.NeedsFile →
          ¬ s.root.entry.NestsBeyond a.nesting ∧ ¬ s.root.entry.NestsBeyond n) →
        r.run a s = apart) ∧
      ((∃ d, (r.run a s).outcome = .error d) ↔
        s.NeedsFile ∧ s.root.entry.NestsBeyond a.nesting) ∧
      ((∃ d, apart.outcome = .error d) ↔ s.NeedsFile ∧ s.root.entry.NestsBeyond n) ∧
      ((∃ d, (r.run a s).outcome = .error d) → (∃ d, apart.outcome = .error d) →
        (r.run a s).state = apart.state ∧ (r.run a s).notices = apart.notices) ∧
      logged .warning (r.run a s).notices ≤ 1 ∧ logged .error (r.run a s).notices ≤ 1) ∧
    (r.IsSettled → ∃ answer, (∀ nesting s, r.run ⟨nesting, a.room⟩ s = ⟨.ok answer, s, []⟩) ∧
      ∀ t w name fill legacy, r = pad t w name fill legacy → Layout.Align.parse? name = none →
        answer = .refused (.pad (.align name))) := by
  constructor
  · intro h s
    simp only [run_apart h, run_whole h, map_eq_error_iff, defaultSwitch_breaksOff_iff]
    refine ⟨fun hboth => ?_, trivial, trivial, ?_, logged_defaultSwitch a.nesting s⟩
    · rw [defaultSwitch_eq_defaultSwitch hboth]
    · rintro ⟨hfile, hdeep⟩ ⟨-, hdeep'⟩
      obtain ⟨d, heq⟩ := defaultSwitch_of_breakOff hfile hdeep
      obtain ⟨d', heq'⟩ := defaultSwitch_of_breakOff hfile hdeep'
      rw [heq, heq']
      exact ⟨rfl, rfl⟩
  · intro h
    obtain ⟨answer, hanswer⟩ := run_of_isSettled h a.room
    refine ⟨answer, fun nesting s => by rw [hanswer, Action.pure_apply], ?_⟩
    rintro t w name fill legacy rfl hname
    -- Both equations hold in every state, and so in one state the two answers are the same.
    have hrefused := run_pad_of_parse?_eq_none (a := a) hname t w fill legacy
    have hboth := congrFun ((hanswer a.nesting).symm.trans hrefused) State.initial
    rw [Action.pure_apply, Action.pure_apply] at hboth
    exact Except.ok.inj (congrArg Step.outcome hboth)

/-- **Between the limits.** A file of 984 arrays, one inside the other, where the settling of the mode leaves
room for all of them and the measuring of a text for one less: the settling has an answer, and the text is
measured in the mode that it gives, while the call breaks off and keeps nothing. Of 3001 arrays that are only
opened, no mode comes where there is room for fewer. -/
theorem settled_apart_between_limits :
    let s : State := ⟨none, .folder (.file (Utf8.encode (Json.nestText 983))), none⟩
    let s' : State := ⟨none, .folder (.file (Utf8.encode (List.replicate 3001 '['))), none⟩
    let call := textWidth ['a'] none
    (∀ room, ((Settings.resolve 984 none >>= fun on =>
      (call.withSwitch on).run ⟨983, room⟩) s).outcome = .ok (.count 1)) ∧
    (∀ room, ∃ d, call.run ⟨983, room⟩ s = ⟨.error d, s, []⟩) ∧
    ∀ limit, limit ≤ 3000 → ∃ d, Settings.resolve limit none s' = ⟨.error d, s', []⟩ := by
  intro s s' call
  have hasks : call.AsksMode := List.cons_ne_nil _ _
  have hdeep : s.root.entry.NestsBeyond 983 :=
    ⟨_, rfl, Json.nestsBeyond_openArrays (Nat.le_refl 983) _⟩
  have hshallow : ¬ s.root.entry.NestsBeyond 984 :=
    Entry.nestsBeyond_file_iff.not.mpr (Json.not_nestsBeyond_nestText (Nat.lt_succ_self 983))
  refine ⟨fun room => ?_, fun room => ?_, fun limit hlimit => ?_⟩
  · rw [run_apart hasks]
    obtain ⟨b, hb⟩ := exists_defaultSwitch_eq_ok fun _ => hshallow
    rw [hb]
    -- The letter takes one cell in either mode.
    cases b with
    | false => rfl
    | true => rfl
  · obtain ⟨d, hd⟩ := defaultSwitch_of_breakOff ⟨rfl, rfl⟩ hdeep
    exact ⟨d, by rw [run_whole hasks, hd]; rfl⟩
  · have hopen := Json.nestsBeyond_openArrays hlimit []
    rw [List.append_nil] at hopen
    exact defaultSwitch_of_breakOff (s := s') ⟨rfl, rfl⟩ ⟨_, rfl, hopen⟩

/-- Both can go wrong at once, and a cut that measures three times still reports each of them once. -/
example :
    let step := (truncate ['a', 'b'] 1 [] none).run ⟨1, 0, 0, 0, 0⟩ ⟨some "maybe", .folder .folder, none⟩
    logged .warning step.notices = 1 ∧ logged .error step.notices = 1 := by
  decide

end Request

end CellWidth.Settings
