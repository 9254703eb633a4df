import CellWidth.Proofs.Documents
import CellWidth.Proofs.Keeping
import CellWidth.Proofs.Loading

/-!
# The preference through a session

From what each request does to the preference kept, an invariant of sessions follows (`KeptAt`): what is
kept is what the file stated at the first reading since it was last forgotten, of those calls that did not
break off. So the file can change without any effect, until the preference is forgotten.

* `Settings.keptAt` — what is kept before each call of a session
* `Settings.preference_of_session` — the preference that each reading uses
* `Settings.read_again_after_breakOff` — a reading that breaks off keeps nothing
-/

namespace CellWidth.Settings

open CellWidth.Text

/-! ## The first since the last forgetting -/

section First

variable {forgets p q : Nat → Prop} {i j k : Nat}

/-- Nothing is forgotten after `k` and before `i`. -/
def Since (forgets : Nat → Prop) (k i : Nat) : Prop :=
  ∀ l, k < l → l < i → ¬ forgets l

/-- None that has the property is before `i` and after the last forgetting before `i`. -/
def NoneSince (p forgets : Nat → Prop) (i : Nat) : Prop :=
  ∀ k, k < i → Since forgets k i → ¬ p k

/-- Of all that have the property, `j` is the first since the last forgetting before `i`. -/
structure IsFirst (p forgets : Nat → Prop) (j i : Nat) : Prop where
  le : j ≤ i
  here : p j
  since : Since forgets j i
  first : ∀ k, k < j → Since forgets k i → ¬ p k

/-- What has not happened up to a later position has not happened up to an earlier one. -/
theorem Since.of_succ (h : Since forgets k (i + 1)) : Since forgets k i :=
  fun l hk hl => h l hk (Nat.lt_succ_of_lt hl)

theorem Since.succ (h : Since forgets k i) (hi : ¬ forgets i) : Since forgets k (i + 1) := by
  intro l hk hl
  rcases Nat.lt_succ_iff_lt_or_eq.mp hl with hl | rfl
  · exact h l hk hl
  · exact hi

/-- A position that lacks the property leaves none. -/
theorem NoneSince.succ (h : NoneSince p forgets i) (hi : ¬ p i) : NoneSince p forgets (i + 1) := by
  intro k hk hsince
  rcases Nat.lt_succ_iff_lt_or_eq.mp hk with hk | rfl
  · exact h k hk hsince.of_succ
  · exact hi

/-- A forgetting leaves none of those before it. -/
theorem noneSince_of_forgets (hf : forgets i) (hi : ¬ p i) : NoneSince p forgets (i + 1) := by
  intro k hk hsince
  rcases Nat.lt_succ_iff_lt_or_eq.mp hk with hk | rfl
  · exact absurd hf (hsince i hk (Nat.lt_succ_self i))
  · exact hi

/-- The first one stays the first as long as nothing is forgotten. -/
theorem IsFirst.succ (h : IsFirst p forgets j i) (hi : ¬ forgets i) :
    IsFirst p forgets j (i + 1) where
  le := Nat.le_succ_of_le h.le
  here := h.here
  since := h.since.succ hi
  first := fun k hk hsince => h.first k hk hsince.of_succ

/-- Only the positions up to the first one matter for the property. -/
theorem IsFirst.of_iff (h : IsFirst p forgets j i) (hpq : ∀ k, k ≤ j → (p k ↔ q k)) :
    IsFirst q forgets j i where
  le := h.le
  here := (hpq j (Nat.le_refl j)).mp h.here
  since := h.since
  first := fun k hk hsince hq => h.first k hk hsince ((hpq k (Nat.le_of_lt hk)).mpr hq)

/-- Where there was none so far, a position that has the property is the first. -/
theorem NoneSince.isFirst (h : NoneSince p forgets i) (hp : p i) : IsFirst p forgets i i where
  le := Nat.le_refl i
  here := hp
  since := fun _ hil hli => absurd hli (Nat.not_lt_of_lt hil)
  first := h

/-- There is only one first. -/
theorem IsFirst.unique (hj : IsFirst p forgets j i) (hk : IsFirst p forgets k i) : j = k := by
  rcases Nat.lt_trichotomy j k with hlt | heq | hgt
  · exact absurd hj.here (hk.first j hlt hj.since)
  · exact heq
  · exact absurd hk.here (hj.first k hgt hk.since)

end First

/-! ## Sessions -/

/-- The state before a call of a session. -/
def stateAt (s : State) (cs : List Call) (i : Nat) : State :=
  (cs.take i).foldl (fun s c => (c.run s).state) s

section Sessions

variable {s : State} {cs : List Call} {c : Call} {i j k : Nat}

/-- The state goes from one position to the next by the call there. -/
theorem stateAt_succ (h : cs[i]? = some c) :
    stateAt s cs (i + 1) = (c.run (stateAt s cs i)).state := by
  rw [stateAt, List.take_add_one, h, List.foldl_append]
  rfl

/-- Each step of a session is its call, taken in the state that the calls before it lead to. -/
theorem session_getElem? : ∀ (s : State) (cs : List Call) (i : Nat),
    (session s cs)[i]? = cs[i]?.map fun c => c.run (stateAt s cs i)
  | _, [], _ => rfl
  | _, _ :: _, 0 => rfl
  | s, c :: rest, i + 1 => session_getElem? (c.run s).state rest i

/-- The call at a position reads the preference. -/
def ReadsAt (s : State) (cs : List Call) (i : Nat) : Prop :=
  ∃ c, cs[i]? = some c ∧ c.request.Reads (stateAt s cs i)

/-- The call at a position makes the program forget the preference kept. -/
def ForgetsAt (cs : List Call) (i : Nat) : Prop :=
  ∃ c, cs[i]? = some c ∧ c.request.Forgets

/-- The call at a position has an answer: it does not break off. -/
def EndsAt (s : State) (cs : List Call) (i : Nat) : Prop :=
  ∃ step answer, (session s cs)[i]? = some step ∧ step.outcome = .ok answer

/-- The call at a position reads the preference and does not break off. -/
def FillsAt (s : State) (cs : List Call) (i : Nat) : Prop :=
  ReadsAt s cs i ∧ EndsAt s cs i

/-- What the preference kept before a call has to do with the calls before it: it is what the file stated
at the first reading since the last forgetting, of those that did not break off; without one there is
none. -/
def KeptAt (s : State) (cs : List Call) (i : Nat) : Prop :=
  ((stateAt s cs i).cache = none ∧ NoneSince (FillsAt s cs) (ForgetsAt cs) i) ∨
  ∃ j c b, j < i ∧ cs[j]? = some c ∧ IsFirst (FillsAt s cs) (ForgetsAt cs) j i ∧
    (load c.allowance.nesting (stateAt s cs j)).outcome = .ok b ∧ (stateAt s cs i).cache = some b

theorem readsAt_iff (h : cs[i]? = some c) : ReadsAt s cs i ↔ c.request.Reads (stateAt s cs i) := by
  simp only [ReadsAt, h, Option.some.injEq, exists_eq_left']

theorem forgetsAt_iff (h : cs[i]? = some c) : ForgetsAt cs i ↔ c.request.Forgets := by
  simp only [ForgetsAt, h, Option.some.injEq, exists_eq_left']

theorem endsAt_iff (h : cs[i]? = some c) :
    EndsAt s cs i ↔ ∃ answer, (c.run (stateAt s cs i)).outcome = .ok answer := by
  simp only [EndsAt, session_getElem?, h, Option.map_some, Option.some.injEq, exists_and_left,
    exists_eq_left']

/-- With nothing kept, a call that reads has an answer if the file has. -/
theorem endsAt_iff_of_reads (h : cs[i]? = some c) (hreads : c.request.Reads (stateAt s cs i))
    (hnone : (stateAt s cs i).cache = none) :
    EndsAt s cs i ↔ ∃ b, (load c.allowance.nesting (stateAt s cs i)).outcome = .ok b := by
  obtain ⟨ns, -, hrun⟩ := Request.run_of_reads (a := c.allowance) hreads
  rw [endsAt_iff h, Call.run, hrun]
  cases hload : (load c.allowance.nesting (stateAt s cs i)).outcome with
  | ok b =>
    rw [cached_of_load hnone hload]
    exact ⟨fun _ => ⟨b, rfl⟩, fun _ => ⟨_, rfl⟩⟩
  | error d =>
    rw [cached_of_breakOff hnone hload]
    exact ⟨fun ⟨_, h⟩ => absurd h nofun, fun ⟨_, h⟩ => absurd h nofun⟩

/-- At the beginning nothing is kept. -/
theorem KeptAt.zero (h : s.cache = none) : KeptAt s cs 0 :=
  Or.inl ⟨h, fun k hk => absurd hk (Nat.not_lt_zero k)⟩

/-- After a forgetting nothing is kept, and no reading has been since. -/
theorem KeptAt.succ_of_forgets (hc : cs[i]? = some c) (hf : c.request.Forgets) :
    KeptAt s cs (i + 1) := by
  refine Or.inl ⟨?_, noneSince_of_forgets ((forgetsAt_iff hc).mpr hf) fun hreads => ?_⟩
  · rw [stateAt_succ hc]
    exact Request.cache_of_forgets hf _
  · exact Request.not_reads_of_forgets hf ((readsAt_iff hc).mp hreads.1)

/-- Nothing is kept so far: a reading that does not break off is then the first one. -/
theorem KeptAt.succ_of_none (hnone : (stateAt s cs i).cache = none)
    (hempty : NoneSince (FillsAt s cs) (ForgetsAt cs) i) (hc : cs[i]? = some c)
    (hf : ¬ c.request.Forgets) : KeptAt s cs (i + 1) := by
  by_cases hreads : c.request.Reads (stateAt s cs i)
  · have hcache := Request.cache_of_reads (a := c.allowance) hreads hnone
    have hends := endsAt_iff_of_reads hc hreads hnone
    rw [← Call.run, ← stateAt_succ hc] at hcache
    cases hload : (load c.allowance.nesting (stateAt s cs i)).outcome with
    | ok b =>
      rw [hload] at hcache
      have hfirst := hempty.isFirst ⟨(readsAt_iff hc).mpr hreads, hends.mpr ⟨b, hload⟩⟩
      have hstay : ¬ ForgetsAt cs i := fun h => hf ((forgetsAt_iff hc).mp h)
      exact Or.inr ⟨i, c, b, Nat.lt_succ_self i, hc, hfirst.succ hstay, hload, hcache⟩
    | error d =>
      -- The reading breaks off, so that what is empty stays empty.
      rw [hload] at hcache
      refine Or.inl ⟨hcache, hempty.succ fun hfills => ?_⟩
      obtain ⟨b, hb⟩ := hends.mp hfills.2
      exact nomatch hload.symm.trans hb
  · refine Or.inl ⟨?_, hempty.succ fun h => hreads ((readsAt_iff hc).mp h.1)⟩
    rw [stateAt_succ hc, Call.run, Request.cache_of_neither hreads hf, hnone]

/-- One call keeps the invariant. -/
theorem KeptAt.succ (h : KeptAt s cs i) (hc : cs[i]? = some c) : KeptAt s cs (i + 1) := by
  by_cases hf : c.request.Forgets
  · exact succ_of_forgets hc hf
  · rcases h with ⟨hnone, hempty⟩ | ⟨j, first, b, hj, hcj, hfirst, hload, hkept⟩
    · exact succ_of_none hnone hempty hc hf
    · have hstay : ¬ ForgetsAt cs i := fun h => hf ((forgetsAt_iff hc).mp h)
      refine Or.inr ⟨j, first, b, Nat.lt_succ_of_lt hj, hcj, hfirst.succ hstay, hload, ?_⟩
      rw [stateAt_succ hc]
      exact Request.cache_of_kept hkept hf

/-- **What is kept through a session** that starts with nothing kept. -/
theorem keptAt (h : s.cache = none) (cs : List Call) : ∀ i, i ≤ cs.length → KeptAt s cs i
  | 0, _ => KeptAt.zero h
  | i + 1, hi => (keptAt h cs i (Nat.le_of_succ_le hi)).succ (List.getElem?_eq_getElem hi)

/-- The preference of a reading, whether or not one is kept. -/
theorem cached_of_keptAt (h : KeptAt s cs i) (hc : cs[i]? = some c) (hreads : ReadsAt s cs i) :
    ∃ j first, cs[j]? = some first ∧
      IsFirst (fun k => ReadsAt s cs k ∧ (k = i ∨ EndsAt s cs k)) (ForgetsAt cs) j i ∧
      (cached c.allowance.nesting (stateAt s cs i)).outcome =
        (load first.allowance.nesting (stateAt s cs j)).outcome ∧
      ((cached c.allowance.nesting (stateAt s cs i)).notices = [] ∨ j = i) := by
  rcases h with ⟨hnone, hempty⟩ | ⟨j, first, b, hj, hcj, hfirst, hload, hkept⟩
  · refine ⟨i, c, hc, NoneSince.isFirst ?_ ⟨hreads, Or.inl rfl⟩, ?_, Or.inr rfl⟩
    · rintro k hk hsince ⟨hreads, rfl | hends⟩
      · exact absurd hk (Nat.lt_irrefl k)
      · exact hempty k hk hsince ⟨hreads, hends⟩
    · cases hload : (load c.allowance.nesting (stateAt s cs i)).outcome with
      | ok b => rw [cached_of_load hnone hload]
      | error d => rw [cached_of_breakOff hnone hload]
  · refine ⟨j, first, hcj, hfirst.of_iff ?_, ?_, Or.inl ?_⟩
    · -- Up to the first one, no position is that of this call.
      intro k hk
      have hki : k ≠ i := Nat.ne_of_lt (Nat.lt_of_le_of_lt hk hj)
      simp only [FillsAt, hki, false_or]
    · rw [cached_of_kept hkept, hload]
    · rw [cached_of_kept hkept]

end Sessions

/-- **The preference through a session.** A session starts with nothing kept, and each of its calls has its
own share of the stack. A call that reads the preference uses what the file stated at the first reading
since the last forgetting, of those that did not break off and this one; only if it is that first one can
it report that the file could not be read. Where no earlier reading broke off, that is the first of all
readings since the last forgetting. A call that does not read never fills what is empty. -/
theorem preference_of_session (variableText : Option String) (root : Root) (cs : List Call)
    (i : Fin cs.length) :
    let s : State := ⟨variableText, root, none⟩
    ∃ step, (session s cs)[i.val]? = some step ∧
      (ReadsAt s cs i → ∃ j first, cs[j]? = some first ∧
        IsFirst (fun k => ReadsAt s cs k ∧ (k = i ∨ EndsAt s cs k)) (ForgetsAt cs) j i ∧
        step.outcome = (load first.allowance.nesting (stateAt s cs j)).outcome.map
          (cs[i].request.answerUnder cs[i].allowance.room) ∧
        (∀ f, .loadFailed f ∈ step.notices → j = i) ∧
        ((∀ k, k < i.val → ReadsAt s cs k → EndsAt s cs k) →
          IsFirst (ReadsAt s cs) (ForgetsAt cs) j i)) ∧
      (¬ ReadsAt s cs i →
        step.state.cache = none ∨ step.state.cache = (stateAt s cs i).cache) := by
  intro s
  have hc : cs[i.val]? = some cs[i] := List.getElem?_eq_getElem i.isLt
  refine ⟨cs[i].run (stateAt s cs i), by rw [session_getElem?, hc]; rfl, ?_, ?_⟩
  · intro hreads
    have hkept := keptAt (s := s) rfl cs i (Nat.le_of_lt i.isLt)
    obtain ⟨j, first, hcj, hfirst, houtcome, hnotices⟩ := cached_of_keptAt hkept hc hreads
    obtain ⟨ns, hns, hrun⟩ :=
      Request.run_of_reads (a := cs[i].allowance) ((readsAt_iff hc).mp hreads)
    refine ⟨j, first, hcj, hfirst, ?_, ?_, ?_⟩
    · rw [Call.run, hrun, houtcome]
    · intro f hf
      rw [Call.run, hrun] at hf
      rcases hnotices with hnone | heq
      · rw [hnone, List.append_nil] at hf
        exact absurd hf (hns f)
      · exact heq
    · intro hends
      refine hfirst.of_iff fun k hk => ⟨And.left, fun hreads => ⟨hreads, ?_⟩⟩
      rcases Nat.lt_or_eq_of_le (Nat.le_trans hk hfirst.le) with hlt | heq
      · exact Or.inr (hends k hlt hreads)
      · exact Or.inl heq
  · intro hreads
    by_cases hf : cs[i].request.Forgets
    · exact Or.inl (Request.cache_of_forgets hf _)
    · exact Or.inr (Request.cache_of_neither (fun h => hreads ((readsAt_iff hc).mpr h)) hf)

/-! ## A reading that breaks off -/

section BreakOff

variable {a : Allowance} {bytes : List UInt8} {d : Json.TooDeep}

/-- A file is put, then a folder in its place; the preference is asked for after each of them. -/
def fileThenFolder (a : Allowance) (bytes : List UInt8) : List Call :=
  [⟨.putFile bytes, a⟩, ⟨.cached, a⟩, ⟨.putFolder, a⟩, ⟨.cached, a⟩]

theorem isFirst_of_fileThenFolder (a : Allowance) (bytes : List UInt8) :
    IsFirst (ReadsAt .initial (fileThenFolder a bytes)) (ForgetsAt (fileThenFolder a bytes)) 1 3 where
  le := by decide
  here := ⟨⟨.cached, a⟩, rfl, Or.inl rfl⟩
  since := by
    intro l hone hthree
    obtain rfl : l = 2 := by omega
    rw [forgetsAt_iff (c := ⟨.putFolder, a⟩) rfl]
    simp [Request.Forgets]
  first := by
    intro k hone _
    obtain rfl : k = 0 := by omega
    rw [readsAt_iff rfl]
    exact Request.not_reads_putFile bytes

theorem load_first_of_tooDeep (h : ofBytes a.nesting bytes = .tooDeep d) :
    (load a.nesting (stateAt .initial (fileThenFolder a bytes) 1)).outcome = .error d := by
  show (load a.nesting ⟨none, .folder (.file bytes), none⟩).outcome = _
  simp only [load, Root.entry, ofEntry, h]

theorem stateAt_last_of_tooDeep (h : ofBytes a.nesting bytes = .tooDeep d) :
    stateAt .initial (fileThenFolder a bytes) 3 = ⟨none, .folder .folder, none⟩ := by
  have hkept : stateAt .initial (fileThenFolder a bytes) 2 =
      stateAt .initial (fileThenFolder a bytes) 1 := by
    rw [stateAt_succ (c := ⟨.cached, a⟩) rfl, Call.run, Request.run, Action.bind_pure_apply,
      cached_of_breakOff rfl (load_first_of_tooDeep h)]
  rw [stateAt_succ (c := ⟨.putFolder, a⟩) rfl, hkept]
  rfl

end BreakOff

/-- **A reading that breaks off keeps nothing.** A file is put that is nested too deeply, and nothing is
forgotten between the two readings. Yet the second one is not answered as the first: it reads what is
there by then, and reports that it cannot. -/
theorem read_again_after_breakOff :
    let a : Allowance := ⟨1000, 0, 0, 0, 0⟩
    let cs := fileThenFolder a (Utf8.encode (List.replicate 3001 '['))
    IsFirst (ReadsAt .initial cs) (ForgetsAt cs) 1 3 ∧
    ∃ step, (session .initial cs)[3]? = some step ∧
      ReadsAt .initial cs 3 ∧ .loadFailed .isFolder ∈ step.notices ∧
      ∀ j, IsFirst (ReadsAt .initial cs) (ForgetsAt cs) j 3 → j ≠ 3 ∧
        step.outcome ≠ (load a.nesting (stateAt .initial cs j)).outcome.map .switch := by
  intro a
  have hroom : a.nesting ≤ 3000 := by decide
  have hnests := Json.nestsBeyond_openArrays hroom []
  rw [List.append_nil] at hnests
  obtain ⟨d, hdeep⟩ := ofBytes_eq_tooDeep_iff.mpr hnests
  generalize Utf8.encode (List.replicate 3001 '[') = bytes at hdeep ⊢
  have hone := isFirst_of_fileThenFolder a bytes
  refine ⟨hone, Request.cached.run a ⟨none, .folder .folder, none⟩, ?_,
    ⟨⟨.cached, a⟩, rfl, Or.inl rfl⟩, List.mem_singleton.mpr rfl, ?_⟩
  · rw [session_getElem?, stateAt_last_of_tooDeep hdeep]
    rfl
  · intro j hfirst
    obtain rfl := hone.unique hfirst
    refine ⟨by decide, ?_⟩
    rw [load_first_of_tooDeep hdeep]
    exact nofun

end CellWidth.Settings
