import CellWidth.Proofs.Parsing

/-!
# Which texts are documents

What the reader accepts is a document, since the state of the reader says what has been read. The
converse is by induction on the value whose tokens are read: each part of it is put where the invariant
wants it, unless the limit is passed on the way (`Reading.Passes`).

The limit is passed where too many brackets are open, and the text up to there has still to be the
beginning of some document (`NestsBeyond`). Both follow from the state: as many brackets are open as the
stack is high, and a stack can always be closed.

* `passes_tokens` — the tokens of a value are read, unless the limit is passed
* `parse_tooDeep_iff` — where the limit is passed
* `parse_eq_ok_iff`, `parse_malformed_iff` — elsewhere a text is read if it is a document
* `IsDocument.unique` — a text writes one value at most
-/

namespace CellWidth.Json

/-- The tokens of some document begin so. -/
def IsViable (ts : List Token) : Prop :=
  ∃ v : Value, ts <+: v.tokens

theorem IsViable.apart {ts : List Token} (h : IsViable ts) : Token.Apart ts := by
  obtain ⟨v, hv⟩ := h
  exact (Token.apart_tokens v).of_begins hv

theorem IsViable.of_begins {s ts : List Token} (h : s <+: ts) (hts : IsViable ts) : IsViable s :=
  hts.imp fun _ hv => h.trans hv

namespace Reading

variable {limit n : Nat} {r r' r'' : Reading} {ts s : List Token} {t : Token} {stack : List Frame}
  {next : Expected} {v : Value} {d : TooDeep} {e : ParseError}

/-! ## Runs -/

theorem run_append (limit : Nat) : ∀ (s ts : List Token) (r : Reading),
    run limit r (s ++ ts) = (run limit r s).bind fun r' => run limit r' ts
  | [], ts, r => rfl
  | t :: s, ts, r => by
    rw [List.cons_append, run, run]
    cases r.step limit t with
    | error e => rfl
    | ok r' => exact run_append limit s ts r'

/-- A run that fails does so at some token, after those before it have been read. -/
theorem run_eq_error : ∀ {ts : List Token} {r : Reading}, run limit r ts = .error e →
    ∃ s t, s ++ [t] <+: ts ∧ ∃ r', run limit r s = .ok r' ∧ r'.step limit t = .error e
  | [], r, h => nomatch h
  | t :: ts, r, h => by
    rw [run] at h
    cases hstep : r.step limit t with
    | error e' =>
      rw [hstep] at h
      obtain rfl := Except.error.inj h
      exact ⟨[], t, ⟨ts, rfl⟩, r, rfl, hstep⟩
    | ok r₁ =>
      rw [hstep] at h
      obtain ⟨s, u, ⟨rest, rfl⟩, r', hrun, hlast⟩ := run_eq_error h
      refine ⟨t :: s, u, ⟨rest, rfl⟩, r', ?_, hlast⟩
      rw [run, hstep]
      exact hrun

/-! ## What follows from what has been read -/

/-- As many brackets are open as the stack is high. -/
theorem IsAfter.leavesOpen (h : r.IsAfter ts) : LeavesOpen r.stack.length ts := by
  cases h with
  | value _ => exact leavesOpen_stackTokens _
  | firstItem _ => exact leavesOpen_stackTokens _
  | firstName _ => exact leavesOpen_stackTokens _
  | name _ => exact leavesOpen_stackTokens _
  | colon _ => exact (leavesOpen_stackTokens _).append (leavesOpen_plain rfl rfl)
  | item _ => exact (leavesOpen_stackTokens _).append (leavesOpen_tokens _)
  | member _ => exact (leavesOpen_stackTokens _).append (leavesOpen_tokens _)
  | nothing => exact leavesOpen_tokens _

/-- Where a container is opened, the stack is lower than the limit. -/
theorem openValue_room (ho : t.opens = true) (h : openValue limit stack t = .ok r) :
    stack.length < limit := by
  cases t with
  | openArray => exact (eq_opened_of_openContainer h).2
  | openObject => exact (eq_opened_of_openContainer h).2
  | _ => cases ho

theorem not_opens_of_close (h : close t stack = .ok r) : t.opens = false := by
  unfold close at h
  split at h
  · split at h
    · rfl
    · cases h
  · split at h
    · rfl
    · cases h
  · cases h

theorem not_opens_of_readName (h : readName t stack = .ok r) : t.opens = false := by
  unfold readName at h
  split at h
  · split at h
    · rfl
    · cases h
  · cases h

/-- Where a bracket that opens is read, the stack is lower than the limit. -/
theorem step_room (ho : t.opens = true) (h : r.step limit t = .ok r') : r.stack.length < limit := by
  have hclose (h : close t r.stack = .ok r') : r.stack.length < limit :=
    absurd (not_opens_of_close h) (by rw [ho]; nofun)
  have hname (h : readName t r.stack = .ok r') : r.stack.length < limit :=
    absurd (not_opens_of_readName h) (by rw [ho]; nofun)
  unfold step at h
  split at h
  · exact openValue_room ho h
  · split at h
    · exact hclose h
    · exact openValue_room ho h
  · exact hname h
  · split at h
    · exact hclose h
    · exact hname h
  · split at h
    · cases ho
    · cases h
  · split at h
    · cases ho
    · exact hclose h
  · cases h

/-- The height of the stack is a matter of brackets, so only one that opens can bring it to the limit. -/
theorem IsAfter.step_height (h : r.IsAfter ts) (ht : t.IsProper) (hr : r.stack.length ≤ limit)
    (hstep : r.step limit t = .ok r') : r'.stack.length ≤ limit := by
  have hbefore := h.leavesOpen
  have hafter := (h.step ht hstep).leavesOpen
  unfold LeavesOpen at hbefore hafter
  rw [List.countP_append, List.countP_append] at hafter
  cases ho : t.opens with
  | true =>
    have hroom := step_room ho hstep
    have hone : [t].countP Token.opens ≤ 1 := List.countP_le_length
    omega
  | false =>
    have hnone : [t].countP Token.opens = 0 := by simp [ho]
    omega

/-- The stack never grows beyond the limit. -/
theorem IsAfter.run_height : ∀ {ts : List Token} {r : Reading} {s : List Token}, r.IsAfter s →
    (∀ t ∈ ts, t.IsProper) → r.stack.length ≤ limit → r.run limit ts = .ok r' →
    r'.stack.length ≤ limit
  | [], r, s, _, _, hr, hrun => by
    obtain rfl := Except.ok.inj hrun
    exact hr
  | t :: ts, r, s, h, hts, hr, hrun => by
    obtain ⟨ht, hrest⟩ := List.forall_mem_cons.mp hts
    obtain ⟨r₁, hstep, hrun⟩ := run_cons_eq_ok_iff.mp hrun
    exact (h.step ht hstep).run_height hrest (h.step_height ht hr hstep) hrun

/-- Whatever value comes next, all that is open can be closed after it. -/
theorem isViable_waiting : ∀ {stack : List Frame}, Waiting stack → ∀ v : Value,
    IsViable (stackTokens stack ++ v.tokens)
  | [], _, v => ⟨v, List.prefix_rfl⟩
  | f :: outer, h, v => by
    obtain ⟨hf, houter⟩ := List.forall_mem_cons.mp h
    rw [stackTokens, List.append_assoc]
    -- The innermost is closed right after the value, and is then itself the value that comes next.
    cases f with
    | object members => exact hf.elim
    | array items =>
      have hclosed := isViable_waiting houter (.array (v :: items).reverse)
      rw [tokens_array_reverse_cons, ← List.append_assoc] at hclosed
      exact hclosed.of_begins (List.prefix_append _ _)
    | member members name =>
      have hclosed := isViable_waiting houter (.object ((name, v) :: members).reverse)
      rw [tokens_object_reverse_cons, ← List.append_assoc] at hclosed
      exact hclosed.of_begins (List.prefix_append _ _)

/-! ## Where the limit is passed -/

theorem finish_ne_tooDeep : finish v stack ≠ .error (.tooDeep d) := by
  intro h
  unfold finish at h
  split at h
  all_goals cases h

theorem close_ne_tooDeep : close t stack ≠ .error (.tooDeep d) := by
  intro h
  unfold close at h
  split at h
  · split at h
    · exact finish_ne_tooDeep h
    · cases h
  · split at h
    · exact finish_ne_tooDeep h
    · cases h
  · cases h

theorem readName_ne_tooDeep : readName t stack ≠ .error (.tooDeep d) := by
  intro h
  unfold readName at h
  split at h
  · split at h
    all_goals cases h
  · cases h

theorem readNext_ne_tooDeep : readNext stack ≠ .error (.tooDeep d) := by
  intro h
  unfold readNext at h
  split at h
  all_goals cases h

/-- A token that passes the limit begins a value. -/
theorem openValue_of_tooDeep (h : r.step limit t = .error (.tooDeep d)) :
    (r.expected = .value ∨ r.expected = .firstItem) ∧
      openValue limit r.stack t = .error (.tooDeep d) := by
  unfold step at h
  split at h
  next hexpected => exact ⟨.inl hexpected, h⟩
  next hexpected =>
    split at h
    · exact absurd h close_ne_tooDeep
    · exact ⟨.inr hexpected, h⟩
  · exact absurd h readName_ne_tooDeep
  · split at h
    · exact absurd h close_ne_tooDeep
    · exact absurd h readName_ne_tooDeep
  · split at h
    all_goals cases h
  · split at h
    · exact absurd h readNext_ne_tooDeep
    · exact absurd h close_ne_tooDeep
  · cases h

/-- It is a bracket that opens, at the height of the limit. -/
theorem openValue_tooDeep (h : openValue limit stack t = .error (.tooDeep d)) :
    limit ≤ stack.length ∧ t.opens = true ∧ ∃ v : Value, [t] <+: v.tokens := by
  have hcontainer (c : Container) (h : openContainer limit stack c = .error (.tooDeep d)) :
      limit ≤ stack.length := by
    rw [openContainer_eq] at h
    split at h
    · cases h
    next hfull => exact Nat.le_of_not_lt hfull
  cases t with
  | scalar v => exact absurd h finish_ne_tooDeep
  | openArray => exact ⟨hcontainer .array h, rfl, .array [], [.closeArray], rfl⟩
  | openObject => exact ⟨hcontainer .object h, rfl, .object [], [.closeObject], rfl⟩
  | _ => cases h

/-- What has been read where a value may begin. -/
theorem IsAfter.of_value (h : r.IsAfter ts) (hr : r.expected = .value ∨ r.expected = .firstItem) :
    Waiting r.stack ∧ ts = stackTokens r.stack := by
  cases h with
  | value h => exact ⟨h, rfl⟩
  | firstItem h => exact ⟨List.forall_mem_cons.mpr ⟨trivial, h⟩, rfl⟩
  | _ =>
    rcases hr with hr | hr
    · cases hr
    · cases hr

/-- **Where the limit is passed, it is by a bracket, and some document begins so.** -/
theorem IsAfter.of_tooDeep (h : r.IsAfter ts) (hd : r.step limit t = .error (.tooDeep d)) :
    LeavesOpen (r.stack.length + 1) (ts ++ [t]) ∧ limit ≤ r.stack.length ∧ t.opens = true ∧
      IsViable (ts ++ [t]) := by
  obtain ⟨hexpected, hvalue⟩ := openValue_of_tooDeep hd
  obtain ⟨hfull, hopens, v, hv⟩ := openValue_tooDeep hvalue
  obtain ⟨hstack, hts⟩ := h.of_value hexpected
  refine ⟨h.leavesOpen.append (leavesOpen_open hopens), hfull, hopens, ?_⟩
  have hbegins := (List.prefix_append_right_inj (stackTokens r.stack)).mpr hv
  rw [hts]
  exact (isViable_waiting hstack v).of_begins hbegins

/-! ## The tokens of a value are read -/

/-- The tokens lead from one state to another, unless the limit is passed on the way. -/
def Passes (limit : Nat) (r : Reading) (ts : List Token) (r' : Reading) : Prop :=
  run limit r ts = .ok r' ∨ ∃ d, run limit r ts = .error (.tooDeep d)

theorem Passes.append (hs : Passes limit r s r') (hts : Passes limit r' ts r'') :
    Passes limit r (s ++ ts) r'' := by
  unfold Passes at *
  rw [run_append]
  rcases hs with hs | ⟨d, hs⟩
  · rwa [hs]
  · rw [hs]
    exact .inr ⟨d, rfl⟩

theorem passes_step (h : r.step limit t = .ok r') : Passes limit r [t] r' := by
  refine .inl ?_
  rw [run, h]
  rfl

theorem step_value (hnext : next = .value ∨ next = .firstItem) (ht : t ≠ .closeArray) :
    step limit ⟨stack, next⟩ t = openValue limit stack t := by
  rcases hnext with rfl | rfl
  · rfl
  · exact step_firstItem ht

theorem passes_open {c : Container} (h : r.step limit t = openContainer limit r.stack c) :
    Passes limit r [t] (opened r.stack c) := by
  rw [openContainer_eq] at h
  split at h
  · exact passes_step h
  · refine .inr ⟨⟨c⟩, ?_⟩
    rw [run, h]

/-- The parts of an array or an object are read one after another. -/
theorem passes_separate {α : Type} {part : α → List Token} {frame : List α → Frame}
    {first next : Expected}
    (hcomma : ∀ done, readNext (frame done :: stack) = .ok ⟨frame done :: stack, next⟩) :
    ∀ (a : α) (parts done : List α) (e : Expected), e = next ∨ e = first →
    (∀ b ∈ a :: parts, ∀ done e, e = next ∨ e = first →
      Passes limit ⟨frame done :: stack, e⟩ (part b) ⟨frame (b :: done) :: stack, .comma⟩) →
    Passes limit ⟨frame done :: stack, e⟩ (separate ((a :: parts).map part))
      ⟨frame ((a :: parts).reverse ++ done) :: stack, .comma⟩
  | a, [], done, e, he, hpart => hpart a List.mem_cons_self done e he
  | a, b :: rest, done, e, he, hpart => by
    have hhead := hpart a List.mem_cons_self done e he
    have hstep : step limit ⟨frame (a :: done) :: stack, .comma⟩ .comma =
        .ok ⟨frame (a :: done) :: stack, next⟩ := hcomma (a :: done)
    have hrest := passes_separate hcomma b rest (a :: done) next (.inl rfl)
      fun c hc => hpart c (List.mem_cons_of_mem a hc)
    rw [List.reverse_cons, List.append_assoc]
    exact hhead.append ((passes_step hstep).append hrest)

/-- The parts of an array or an object, of which there may be none, and the bracket after them. -/
theorem passes_closed {α : Type} {part : α → List Token} (frame : List α → Frame)
    {first : Expected} (next : Expected) {bracket : Token} {parts : List α}
    (hcomma : ∀ done, readNext (frame done :: stack) = .ok ⟨frame done :: stack, next⟩)
    (hpart : ∀ a ∈ parts, ∀ done e, e = next ∨ e = first →
      Passes limit ⟨frame done :: stack, e⟩ (part a) ⟨frame (a :: done) :: stack, .comma⟩)
    (hclose : ∀ e, e = first ∨ e = .comma →
      step limit ⟨frame parts.reverse :: stack, e⟩ bracket = .ok r) :
    Passes limit ⟨frame [] :: stack, first⟩ (separate (parts.map part) ++ [bracket]) r := by
  cases parts with
  | nil => exact passes_step (hclose first (.inl rfl))
  | cons a rest =>
    have hall := passes_separate hcomma a rest [] first (.inr rfl) hpart
    rw [List.append_nil] at hall
    exact hall.append (passes_step (hclose .comma (.inr rfl)))

/-- **The tokens of a value are read as this value**, unless the limit is passed. -/
theorem passes_tokens (v : Value) : ∀ {stack : List Frame} {next : Expected} {r : Reading},
    next = .value ∨ next = .firstItem → finish v stack = .ok r →
    Passes limit ⟨stack, next⟩ v.tokens r := by
  induction v using Value.induction with
  | scalar v hscalar =>
    intro stack next r hnext hr
    rw [tokens_of_isScalar hscalar]
    refine passes_step ?_
    rw [step_value hnext (by nofun)]
    exact hr
  | array items ih =>
    intro stack next r hnext hr
    have hopen : Passes limit ⟨stack, next⟩ [.openArray] (opened stack .array) :=
      passes_open (step_value hnext (by nofun))
    rw [tokens_array]
    refine hopen.append (passes_closed .array .value (fun _ => rfl) ?_ ?_)
    · exact fun v hv done e he => ih v hv he rfl
    · intro e he
      rw [← List.reverse_reverse items] at hr
      rcases he with rfl | rfl
      · exact hr
      · exact hr
  | object members ih =>
    intro stack next r hnext hr
    have hopen : Passes limit ⟨stack, next⟩ [.openObject] (opened stack .object) :=
      passes_open (step_value hnext (by nofun))
    rw [tokens_object]
    refine hopen.append (passes_closed .object .name (fun _ => rfl) ?_ ?_)
    · intro (name, v) hm done e he
      have hname : step limit ⟨.object done :: stack, e⟩ (.scalar (.string name)) =
          .ok ⟨.member done name :: stack, .colon⟩ := by
        rcases he with rfl | rfl
        · rfl
        · rfl
      exact (passes_step hname).append ((passes_step rfl).append (ih _ hm (.inl rfl) rfl))
    · intro e he
      rw [← List.reverse_reverse members] at hr
      rcases he with rfl | rfl
      · exact hr
      · exact hr

end Reading

/-! ## Documents -/

section Documents

variable {limit : Nat} {t : List Char} {v w : Value}

/-- Some document begins as the text does, up to a bracket with which more are open than the limit. -/
def NestsBeyond (limit : Nat) (t : List Char) : Prop :=
  ∃ u rest ts, t = u ++ rest ∧ Token.Writes u ts ∧ (∃ b ∈ ts.getLast?, b.opens = true) ∧
    IsViable ts ∧ ts.countP Token.closes + limit < ts.countP Token.opens

/-- In terms of the tokens into which the text is cut, of which there may be more. -/
theorem NestsBeyond.exists_begins (h : NestsBeyond limit t) :
    ∃ p, p <+: (Token.cut t).1 ∧ IsViable p ∧
      p.countP Token.closes + limit < p.countP Token.opens := by
  obtain ⟨u, rest, ts, rfl, hu, ⟨b, hb, hopens⟩, hviable, hdeep⟩ := h
  refine ⟨ts, Token.begins_of_writes hu hviable.apart (fun s hs hscalar => ?_) rest, hviable, hdeep⟩
  obtain rfl := Option.some.inj (hb.symm.trans hs)
  exact Token.not_isScalar_of_opens hopens hscalar

/-- The state of the reader after the first tokens of a text. -/
theorem isAfter_of_begins {p : List Token} {r : Reading} (hp : p <+: (Token.cut t).1)
    (hrun : Reading.start.run limit p = .ok r) : r.IsAfter p ∧ r.stack.length ≤ limit := by
  have hproper : ∀ u ∈ p, u.IsProper := fun u hu => Token.isProper_cut t u (hp.mem hu)
  exact ⟨Reading.isAfter_start.run hproper hrun,
    Reading.isAfter_start.run_height hproper (Nat.zero_le limit) hrun⟩

/-- What is read is a document. -/
theorem isDocument_of_parse (h : parse limit t = .ok v) : IsDocument t v := by
  have hafter (r : Reading) (hrun : Reading.start.run limit (Token.cut t).1 = .ok r) :=
    (isAfter_of_begins List.prefix_rfl hrun).1
  rw [isDocument_iff]
  unfold parse at h
  generalize Token.cut t = tokens at h hafter ⊢
  obtain ⟨tokens, whole⟩ := tokens
  simp only at h hafter
  split at h
  · cases h
  next stack w hrun =>
    cases whole with
    | false => cases h
    | true =>
      obtain rfl := Except.ok.inj h
      cases hafter _ hrun with
      | nothing => rfl
  · cases h

theorem parse_tooDeep_eq {d : TooDeep} :
    parse limit t = .error (.tooDeep d) ↔
      Reading.start.run limit (Token.cut t).1 = .error (.tooDeep d) := by
  unfold parse
  generalize Token.cut t = tokens
  obtain ⟨tokens, whole⟩ := tokens
  simp only
  cases Reading.start.run limit tokens with
  | error e => simp only [Except.error.injEq]
  | ok r =>
    refine ⟨fun h => ?_, nofun⟩
    split at h
    next e he => cases he
    next =>
      split at h
      · cases h
      · cases h
    · cases h

theorem passes_document (limit : Nat) (v : Value) :
    Reading.Passes limit .start v.tokens ⟨[], .nothing v⟩ :=
  Reading.passes_tokens v (.inl rfl) rfl

/-- **Where the limit is passed.** -/
theorem parse_tooDeep_iff : (∃ d, parse limit t = .error (.tooDeep d)) ↔ NestsBeyond limit t := by
  simp only [parse_tooDeep_eq]
  constructor
  · rintro ⟨d, hd⟩
    obtain ⟨s, bracket, hbegins, r, hrun, hlast⟩ := Reading.run_eq_error hd
    have hafter := (isAfter_of_begins ((List.prefix_append s _).trans hbegins) hrun).1
    obtain ⟨hopen, hfull, hbracket, hviable⟩ := hafter.of_tooDeep hlast
    obtain ⟨u, rest, ht, hu⟩ := Token.exists_writes_of_begins hbegins
    unfold LeavesOpen at hopen
    exact ⟨u, rest, s ++ [bracket], ht, hu, ⟨bracket, by simp, hbracket⟩, hviable, by omega⟩
  · intro hbeyond
    obtain ⟨p, hp, ⟨v, more, hmore⟩, hdeep⟩ := hbeyond.exists_begins
    have hpasses := passes_document limit v
    rw [Reading.Passes, ← hmore, Reading.run_append] at hpasses
    have ⟨rest, hrest⟩ := hp
    rw [← hrest, Reading.run_append]
    -- What begins a document is refused for its depth or not at all, and the stack is never so high.
    cases hrun : Reading.start.run limit p with
    | error e =>
      rw [hrun] at hpasses
      rcases hpasses with hok | ⟨d, hd⟩
      · cases hok
      · exact ⟨d, hd⟩
    | ok r =>
      obtain ⟨hafter, hheight⟩ := isAfter_of_begins hp hrun
      have hopen := hafter.leavesOpen
      unfold LeavesOpen at hopen
      omega

/-- **Elsewhere a text is read if it is a document, as the value that it writes.** -/
theorem parse_eq_ok_iff (h : ¬ NestsBeyond limit t) : parse limit t = .ok v ↔ IsDocument t v := by
  refine ⟨isDocument_of_parse, fun hv => ?_⟩
  have hshallow := mt parse_tooDeep_iff.mp h
  rw [isDocument_iff] at hv
  simp only [parse_tooDeep_eq] at hshallow
  rw [hv] at hshallow
  have hrun := (passes_document limit v).resolve_right hshallow
  rw [parse, hv]
  simp only [hrun]
  rfl

/-- **All other texts are refused.** -/
theorem parse_malformed_iff (h : ¬ NestsBeyond limit t) :
    parse limit t = .error .malformed ↔ ¬ ∃ v, IsDocument t v := by
  simp only [← parse_eq_ok_iff h]
  cases hparse : parse limit t with
  | ok v => exact ⟨nofun, fun hnone => absurd ⟨v, rfl⟩ hnone⟩
  | error e =>
    cases e with
    | malformed => exact ⟨fun _ ⟨v, hv⟩ => absurd hv nofun, fun _ => rfl⟩
    | tooDeep d => exact absurd (parse_tooDeep_iff.mp ⟨d, hparse⟩) h

/-- How much the limit is makes no difference to a text that passes it nowhere. -/
theorem parse_eq_parse {limit' : Nat} (h : ¬ NestsBeyond limit t) (h' : ¬ NestsBeyond limit' t) :
    parse limit t = parse limit' t := by
  by_cases hdocument : ∃ v, IsDocument t v
  · obtain ⟨v, hv⟩ := hdocument
    rw [(parse_eq_ok_iff h).mpr hv, (parse_eq_ok_iff h').mpr hv]
  · rw [(parse_malformed_iff h).mpr hdocument, (parse_malformed_iff h').mpr hdocument]

/-- A document is not nested more deeply than it has brackets that open. -/
theorem IsDocument.not_nestsBeyond (hv : IsDocument t v)
    (h : v.tokens.countP Token.opens ≤ limit) : ¬ NestsBeyond limit t := by
  intro hbeyond
  obtain ⟨p, hp, -, hdeep⟩ := hbeyond.exists_begins
  have hbegins : p <+: v.tokens := by rwa [isDocument_iff.mp hv] at hp
  have hopens := hbegins.sublist.countP_le (p := Token.opens)
  omega

/-- A text writes one value at most. -/
theorem IsDocument.unique (hv : IsDocument t v) (hw : IsDocument t w) : v = w := by
  have hshallow := hv.not_nestsBeyond (Nat.le_refl _)
  have hparse := (parse_eq_ok_iff hshallow).mpr hv
  rw [(parse_eq_ok_iff hshallow).mpr hw] at hparse
  exact (Except.ok.inj hparse).symm

end Documents

end CellWidth.Json
