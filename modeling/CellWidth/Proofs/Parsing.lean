import CellWidth.Proofs.Lexing

/-!
# What the reader has read

The reader knows nothing of values as a whole. It goes from token to token and keeps a stack of values
that are open. What makes it right is an invariant: its state always says which tokens have been read
(`Reading.IsAfter`), so that a state in which a value is complete has read the tokens of that value.

Tokens that hold values hold scalars (`Token.IsProper`). The reader relies on it, and so the cutting is
gone through first.

* `Token.isProper_cut` — what the cutter finds
* `Reading.IsAfter.step`, `Reading.IsAfter.run` — what a token does to the state, and many
-/

namespace CellWidth.Json

/-! ## Tokens as they are cut -/

/-- A scalar token holds a scalar. -/
def Token.IsProper : Token → Prop
  | scalar v => v.IsScalar
  | _ => True

namespace Token

variable {c : Char} {t form : List Char} {v : Value} {ts : List Token}

theorem SpellsScalar.isScalar (h : SpellsScalar v form) : v.IsScalar := by
  cases h with
  | word h => cases h <;> trivial
  | number h => cases h <;> trivial
  | string _ => trivial

theorem isProper_of_mark? {b : Token} (h : mark? c = some b) : b.IsProper := by
  cases b with
  | scalar v => exact absurd trivial (not_isScalar_of_mark? h)
  | _ => trivial

/-- Whatever a text is written with. -/
theorem Writes.isProper (h : Writes t ts) : ∀ b ∈ ts, b.IsProper := by
  induction h with
  | nil => exact fun _ hb => absurd hb List.not_mem_nil
  | space _ _ ih => exact ih
  | mark h _ ih => exact List.forall_mem_cons.mpr ⟨isProper_of_mark? h, ih⟩
  | scalar h _ ih => exact List.forall_mem_cons.mpr ⟨h.isScalar, ih⟩

theorem isProper_cut (t : List Char) : ∀ b ∈ (cut t).1, b.IsProper := by
  obtain ⟨_, _, -, h⟩ := exists_writes_of_begins (List.prefix_rfl (l := (cut t).1))
  exact h.isProper

end Token

/-! ## What has been read -/

/-- A frame that waits for a value. An object does not: it waits for a name. -/
def Frame.Waits : Frame → Prop
  | .object _ => False
  | _ => True

/-- All of these frames wait for a value. -/
def Waiting (stack : List Frame) : Prop :=
  ∀ f ∈ stack, f.Waits

namespace Reading

variable {limit : Nat} {r r' : Reading} {ts : List Token} {t : Token} {stack : List Frame}
  {v : Value}

/-- The state of the reader after some tokens. -/
inductive IsAfter : Reading → List Token → Prop
  | value {stack : List Frame} (h : Waiting stack) : IsAfter ⟨stack, .value⟩ (stackTokens stack)
  | firstItem {stack : List Frame} (h : Waiting stack) :
    IsAfter ⟨.array [] :: stack, .firstItem⟩ (stackTokens (.array [] :: stack))
  | firstName {stack : List Frame} (h : Waiting stack) :
    IsAfter ⟨.object [] :: stack, .firstName⟩ (stackTokens (.object [] :: stack))
  | name {stack : List Frame} {members : List (Text × Value)} (h : Waiting stack) :
    IsAfter ⟨.object members :: stack, .name⟩ (stackTokens (.object members :: stack))
  | colon {stack : List Frame} {members : List (Text × Value)} {name : Text} (h : Waiting stack) :
    IsAfter ⟨.member members name :: stack, .colon⟩
      (stackTokens (.object members :: stack) ++ [.scalar (.string name)])
  | item {stack : List Frame} {items : List Value} {v : Value} (h : Waiting stack) :
    IsAfter ⟨.array (v :: items) :: stack, .comma⟩ (stackTokens (.array items :: stack) ++ v.tokens)
  | member {stack : List Frame} {members : List (Text × Value)} {name : Text} {v : Value}
    (h : Waiting stack) :
    IsAfter ⟨.object ((name, v) :: members) :: stack, .comma⟩
      (stackTokens (.member members name :: stack) ++ v.tokens)
  | nothing {v : Value} : IsAfter ⟨[], .nothing v⟩ v.tokens

theorem isAfter_start : IsAfter start [] :=
  @IsAfter.value [] (by simp [Waiting])

/-- A value is put into the innermost frame with its tokens. -/
theorem isAfter_finish (h : Waiting stack) (hr : finish v stack = .ok r) :
    r.IsAfter (stackTokens stack ++ v.tokens) := by
  cases stack with
  | nil =>
    obtain rfl := Except.ok.inj hr
    exact .nothing
  | cons f outer =>
    obtain ⟨hf, houter⟩ := List.forall_mem_cons.mp h
    cases f with
    | array items =>
      obtain rfl := Except.ok.inj hr
      exact .item houter
    | object members => exact hf.elim
    | member members name =>
      obtain rfl := Except.ok.inj hr
      exact .member houter

/-- The state after the bracket that opens an array or an object. -/
def opened (stack : List Frame) : Container → Reading
  | .array => ⟨.array [] :: stack, .firstItem⟩
  | .object => ⟨.object [] :: stack, .firstName⟩

theorem openContainer_eq (limit : Nat) (stack : List Frame) (c : Container) :
    openContainer limit stack c =
      if stack.length < limit then .ok (opened stack c) else .error (.tooDeep ⟨c⟩) := by
  cases c with
  | array => rfl
  | object => rfl

theorem eq_opened_of_openContainer {c : Container} (hr : openContainer limit stack c = .ok r) :
    r = opened stack c ∧ stack.length < limit := by
  rw [openContainer_eq] at hr
  split at hr
  next hroom => exact ⟨(Except.ok.inj hr).symm, hroom⟩
  · cases hr

/-- The first token of a value. -/
theorem isAfter_openValue (h : Waiting stack) (ht : t.IsProper)
    (hr : openValue limit stack t = .ok r) : r.IsAfter (stackTokens stack ++ [t]) := by
  cases t with
  | scalar v =>
    rw [← tokens_of_isScalar ht]
    exact isAfter_finish h hr
  | openArray =>
    obtain ⟨rfl, -⟩ := eq_opened_of_openContainer hr
    exact .firstItem h
  | openObject =>
    obtain ⟨rfl, -⟩ := eq_opened_of_openContainer hr
    exact .firstName h
  | _ => cases hr

/-- The name of a member. -/
theorem isAfter_readName {members : List (Text × Value)} (h : Waiting stack)
    (hr : readName t (.object members :: stack) = .ok r) :
    r.IsAfter (stackTokens (.object members :: stack) ++ [t]) := by
  cases t with
  | scalar v =>
    cases v with
    | string name =>
      obtain rfl := Except.ok.inj hr
      exact .colon h
    | _ => cases hr
  | _ => cases hr

/-- The bracket that closes an array makes it a value. -/
theorem isAfter_close_array {items : List Value} (h : Waiting stack)
    (hts : stackTokens stack ++ (Value.array items.reverse).tokens = ts ++ [.closeArray])
    (hr : close t (.array items :: stack) = .ok r) : r.IsAfter (ts ++ [t]) := by
  cases t with
  | closeArray =>
    rw [← hts]
    exact isAfter_finish h hr
  | _ => cases hr

/-- The bracket that closes an object makes it a value. -/
theorem isAfter_close_object {members : List (Text × Value)} (h : Waiting stack)
    (hts : stackTokens stack ++ (Value.object members.reverse).tokens = ts ++ [.closeObject])
    (hr : close t (.object members :: stack) = .ok r) : r.IsAfter (ts ++ [t]) := by
  cases t with
  | closeObject =>
    rw [← hts]
    exact isAfter_finish h hr
  | _ => cases hr

/-- In an array that has just been opened all but its end begins a value. -/
theorem step_firstItem (h : t ≠ .closeArray) :
    step limit ⟨stack, .firstItem⟩ t = openValue limit stack t := by
  cases t with
  | closeArray => exact absurd rfl h
  | _ => rfl

/-- **What a token does to the state.** -/
theorem IsAfter.step (h : r.IsAfter ts) (ht : t.IsProper) (hr : r.step limit t = .ok r') :
    r'.IsAfter (ts ++ [t]) := by
  cases h with
  | value h => exact isAfter_openValue h ht hr
  | @firstItem stack h =>
    have hwaits : Waiting (.array [] :: stack) := List.forall_mem_cons.mpr ⟨trivial, h⟩
    have htokens : stackTokens stack ++ (Value.array ([] : List Value).reverse).tokens =
        stackTokens (.array [] :: stack) ++ [.closeArray] := by
      rw [stackTokens, List.append_assoc]
      rfl
    by_cases hclose : t = .closeArray
    · subst hclose
      exact isAfter_close_array h htokens hr
    · rw [step_firstItem hclose] at hr
      exact isAfter_openValue hwaits ht hr
  | @firstName stack h =>
    have htokens : stackTokens stack ++ (Value.object ([] : List (Text × Value)).reverse).tokens =
        stackTokens (.object [] :: stack) ++ [.closeObject] := by
      rw [stackTokens, List.append_assoc]
      rfl
    cases t with
    | closeObject => exact isAfter_close_object h htokens hr
    | _ => exact isAfter_readName h hr
  | name h => exact isAfter_readName h hr
  | @colon stack members name h =>
    cases t with
    | colon =>
      obtain rfl := Except.ok.inj hr
      have hwaits : Waiting (.member members name :: stack) := List.forall_mem_cons.mpr ⟨trivial, h⟩
      simpa [stackTokens, Frame.tokens] using IsAfter.value hwaits
    | _ => cases hr
  | @item stack items v h =>
    have htokens : stackTokens stack ++ (Value.array (v :: items).reverse).tokens =
        stackTokens (.array items :: stack) ++ v.tokens ++ [.closeArray] := by
      rw [tokens_array_reverse_cons, stackTokens, List.append_assoc, List.append_assoc,
        List.append_assoc]
    cases t with
    | comma =>
      obtain rfl := Except.ok.inj hr
      have hwaits : Waiting (.array (v :: items) :: stack) := List.forall_mem_cons.mpr ⟨trivial, h⟩
      simpa only [stackTokens, Frame.tokens_array_cons, List.append_assoc] using
        IsAfter.value hwaits
    | _ => exact isAfter_close_array h htokens hr
  | @member stack members name v h =>
    have htokens : stackTokens stack ++ (Value.object ((name, v) :: members).reverse).tokens =
        stackTokens (.member members name :: stack) ++ v.tokens ++ [.closeObject] := by
      rw [tokens_object_reverse_cons, stackTokens, List.append_assoc, List.append_assoc,
        List.append_assoc]
    cases t with
    | comma =>
      obtain rfl := Except.ok.inj hr
      simpa only [stackTokens, Frame.tokens_object_cons, List.append_assoc] using
        (IsAfter.name h : IsAfter ⟨.object ((name, v) :: members) :: stack, .name⟩ _)
    | _ => exact isAfter_close_object h htokens hr
  | nothing => cases hr

theorem run_cons_eq_ok_iff :
    run limit r (t :: ts) = .ok r' ↔ ∃ r₁, r.step limit t = .ok r₁ ∧ run limit r₁ ts = .ok r' := by
  rw [run]
  cases r.step limit t with
  | error e => exact ⟨nofun, fun ⟨_, h, _⟩ => nomatch h⟩
  | ok r₁ => exact ⟨fun h => ⟨r₁, rfl, h⟩, fun ⟨_, h, hrun⟩ => Except.ok.inj h ▸ hrun⟩

/-- **What many tokens do to the state.** -/
theorem IsAfter.run : ∀ {ts : List Token} {r : Reading} {s : List Token}, r.IsAfter s →
    (∀ t ∈ ts, t.IsProper) → r.run limit ts = .ok r' → r'.IsAfter (s ++ ts)
  | [], r, s, h, _, hr => by
    obtain rfl := Except.ok.inj hr
    rwa [List.append_nil]
  | t :: ts, r, s, h, hts, hr => by
    obtain ⟨ht, hrest⟩ := List.forall_mem_cons.mp hts
    obtain ⟨r₁, hstep, hrun⟩ := run_cons_eq_ok_iff.mp hr
    have hafter := IsAfter.run (h.step ht hstep) hrest hrun
    rwa [List.append_assoc] at hafter

end Reading

end CellWidth.Json
