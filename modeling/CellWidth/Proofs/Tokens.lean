import CellWidth.Json.Document

/-!
# The tokens of a value

Spaces and the spelling of scalars are gone once a document has been cut into tokens, and what is left
can be written in one way only: `Value.tokens`. So the grammar of tokens is this function.

A value that is still being read has tokens as well, those that have been read of it (`Frame.tokens`).
When the next part of it is complete, they grow by the tokens of that part; when it is complete itself,
they are its own.

In the tokens of a value each bracket that opens is closed. In those of a value that is being read one is
not, and so the brackets that are open in a stack are as many as the stack is high.
-/

namespace CellWidth.Json

/-! ## Values -/

/-- A value without parts. -/
def Value.IsScalar : Value → Prop
  | .array _ | .object _ => False
  | _ => True

/-- What holds of scalars, and of arrays and objects if it holds of their parts, holds of all values. -/
@[elab_as_elim]
theorem Value.induction {P : Value → Prop} (scalar : ∀ v : Value, v.IsScalar → P v)
    (array : ∀ items, (∀ v ∈ items, P v) → P (.array items))
    (object : ∀ members : List (Text × Value), (∀ m ∈ members, P m.2) → P (.object members)) :
    ∀ v, P v
  | .null => scalar .null trivial
  | .bool b => scalar (.bool b) trivial
  | .integer n => scalar (.integer n) trivial
  | .real x => scalar (.real x) trivial
  | .string s => scalar (.string s) trivial
  | .array items => array items fun v _ => Value.induction scalar array object v
  | .object members => object members fun (_, v) _ => Value.induction scalar array object v
-- The parts of a value are in a list, so that a smaller size has to be shown for each of them.
termination_by v => sizeOf v
decreasing_by
  · have := List.sizeOf_lt_of_mem ‹_›
    simp only [Value.array.sizeOf_spec]
    omega
  · have := List.sizeOf_lt_of_mem ‹_›
    simp only [Value.object.sizeOf_spec, Prod.mk.sizeOf_spec] at *
    omega

/-! ## Tokens -/

/-- Parts with a comma between them. -/
def separate : List (List Token) → List Token
  | [] => []
  | [p] => p
  | p :: q :: rest => p ++ .comma :: separate (q :: rest)

mutual

/-- The tokens that write a value. -/
def Value.tokens : Value → List Token
  | .array items => .openArray :: (separate (itemTokens items) ++ [.closeArray])
  | .object members => .openObject :: (separate (memberTokens members) ++ [.closeObject])
  | v => [.scalar v]

/-- The tokens of each item of an array. -/
def itemTokens : List Value → List (List Token)
  | [] => []
  | v :: rest => v.tokens :: itemTokens rest

/-- The tokens of each member of an object. -/
def memberTokens : List (Text × Value) → List (List Token)
  | [] => []
  | (name, v) :: rest => (.scalar (.string name) :: .colon :: v.tokens) :: memberTokens rest

end

/-- A scalar is one token. -/
theorem tokens_of_isScalar {v : Value} (h : v.IsScalar) : v.tokens = [.scalar v] := by
  cases v with
  | array items => exact h.elim
  | object members => exact h.elim
  | null => rfl
  | bool b => rfl
  | integer n => rfl
  | real x => rfl
  | string s => rfl

/-- The two functions that go along with `Value.tokens` are maps over the parts. -/
theorem itemTokens_eq : ∀ items, itemTokens items = items.map Value.tokens
  | [] => rfl
  | v :: rest => by rw [itemTokens, itemTokens_eq rest, List.map_cons]

/-- The tokens of a member of an object. -/
def namedTokens (m : Text × Value) : List Token :=
  .scalar (.string m.1) :: .colon :: m.2.tokens

theorem memberTokens_eq : ∀ members, memberTokens members = members.map namedTokens
  | [] => rfl
  | (name, v) :: rest => by rw [memberTokens, memberTokens_eq rest, List.map_cons]; rfl

/-- An array is written with its items between two brackets, and commas between the items. -/
theorem tokens_array (items : List Value) :
    (Value.array items).tokens =
      .openArray :: (separate (items.map Value.tokens) ++ [.closeArray]) := by
  rw [Value.tokens, itemTokens_eq]

theorem tokens_object (members : List (Text × Value)) :
    (Value.object members).tokens =
      .openObject :: (separate (members.map namedTokens) ++ [.closeObject]) := by
  rw [Value.tokens, memberTokens_eq]

/-! ## Values that are being read -/

/-- Parts with a comma behind each of them. -/
def continued (parts : List (List Token)) : List Token :=
  parts.flatMap (· ++ [.comma])

/-- A list of parts grows at its end while it is read, so the equations are for a part more at the end.
-/
theorem continued_concat (ps : List (List Token)) (p : List Token) :
    continued (ps ++ [p]) = continued ps ++ p ++ [.comma] := by
  simp only [continued, List.flatMap_append, List.flatMap_singleton, List.append_assoc]

/-- The last part alone has no comma behind it. -/
theorem separate_concat : ∀ (ps : List (List Token)) (p : List Token),
    separate (ps ++ [p]) = continued ps ++ p
  | [], _ => rfl
  | [q], p => by simp [separate, continued]
  | q :: r :: ps, p => by
    have hrest := separate_concat (r :: ps) p
    -- With two parts at least, `separate` puts a comma behind the first.
    rw [List.cons_append, List.cons_append] at *
    rw [separate, hrest]
    simp [continued]

/-- What has been read of a value, up to where its next part can begin. -/
def Frame.tokens : Frame → List Token
  | .array items => .openArray :: continued (items.reverse.map Value.tokens)
  | .object members => .openObject :: continued (members.reverse.map namedTokens)
  | .member members name =>
    .openObject :: (continued (members.reverse.map namedTokens) ++ [.scalar (.string name), .colon])

/-- What has been read of all values that are open, the outermost first. -/
def stackTokens : List Frame → List Token
  | [] => []
  | f :: outer => stackTokens outer ++ f.tokens

section Parts

variable {items : List Value} {members : List (Text × Value)} {name : Text} {v : Value}

/-- With one item more, and a comma behind it, more of an array has been read. -/
theorem Frame.tokens_array_cons :
    (Frame.array (v :: items)).tokens = (Frame.array items).tokens ++ v.tokens ++ [.comma] := by
  simp only [Frame.tokens, List.reverse_cons, List.map_append, List.map_cons, List.map_nil,
    continued_concat, List.cons_append, List.append_assoc]

/-- So it is with a member, where its name has been read before. -/
theorem Frame.tokens_object_cons :
    (Frame.object ((name, v) :: members)).tokens =
      (Frame.member members name).tokens ++ v.tokens ++ [.comma] := by
  simp only [Frame.tokens, List.reverse_cons, List.map_append, List.map_cons, List.map_nil,
    continued_concat, namedTokens, List.cons_append, List.append_assoc, List.nil_append]

/-- With one item more and the bracket behind it, all of the array has been read. -/
theorem tokens_array_reverse_cons :
    (Value.array (v :: items).reverse).tokens =
      (Frame.array items).tokens ++ v.tokens ++ [.closeArray] := by
  simp only [tokens_array, Frame.tokens, List.reverse_cons, List.map_append, List.map_cons,
    List.map_nil, separate_concat, List.cons_append]

/-- And so all of an object. -/
theorem tokens_object_reverse_cons :
    (Value.object ((name, v) :: members).reverse).tokens =
      (Frame.member members name).tokens ++ v.tokens ++ [.closeObject] := by
  simp only [tokens_object, Frame.tokens, List.reverse_cons, List.map_append, List.map_cons,
    List.map_nil, separate_concat, namedTokens, List.cons_append, List.append_assoc, List.nil_append]

end Parts

/-! ## Brackets -/

/-- Whether a token opens an array or an object. -/
def Token.opens : Token → Bool
  | openArray | openObject => true
  | _ => false

/-- Whether a token closes an array or an object. -/
def Token.closes : Token → Bool
  | closeArray | closeObject => true
  | _ => false

/-- So many more brackets are opened than closed. -/
def LeavesOpen (n : Nat) (ts : List Token) : Prop :=
  ts.countP Token.opens = ts.countP Token.closes + n

section Brackets

variable {n k : Nat} {s ts : List Token} {t : Token}

/-- What is left open adds up. -/
theorem LeavesOpen.append (hs : LeavesOpen n s) (ht : LeavesOpen k ts) :
    LeavesOpen (n + k) (s ++ ts) := by
  unfold LeavesOpen at *
  rw [List.countP_append, List.countP_append]
  omega

theorem leavesOpen_nil : LeavesOpen 0 [] := rfl

theorem leavesOpen_open (h : t.opens = true) : LeavesOpen 1 [t] := by
  cases t with
  | openArray => rfl
  | openObject => rfl
  | _ => cases h

/-- A token that is no bracket. -/
theorem leavesOpen_plain (ho : t.opens = false) (hc : t.closes = false) : LeavesOpen 0 [t] := by
  simp [LeavesOpen, ho, hc]

/-- A pair of brackets leaves open what there was. -/
theorem leavesOpen_enclosed (ht : LeavesOpen 0 ts) :
    LeavesOpen 0 (.openArray :: (ts ++ [.closeArray])) ∧
      LeavesOpen 0 (.openObject :: (ts ++ [.closeObject])) := by
  unfold LeavesOpen at *
  constructor
  · simp only [List.countP_cons, List.countP_append, ht]
    rfl
  · simp only [List.countP_cons, List.countP_append, ht]
    rfl

/-- Commas open and close nothing. -/
theorem leavesOpen_separate : ∀ ps : List (List Token), (∀ p ∈ ps, LeavesOpen 0 p) →
    LeavesOpen 0 (separate ps)
  | [], _ => leavesOpen_nil
  | [p], h => h p List.mem_cons_self
  | p :: q :: rest, h => by
    have hp := h p List.mem_cons_self
    have hrest := leavesOpen_separate (q :: rest) fun x hx => h x (List.mem_cons_of_mem _ hx)
    have hcomma : LeavesOpen 0 [.comma] := leavesOpen_plain rfl rfl
    exact hp.append (hcomma.append hrest)

theorem leavesOpen_continued : ∀ ps : List (List Token), (∀ p ∈ ps, LeavesOpen 0 p) →
    LeavesOpen 0 (continued ps)
  | [], _ => leavesOpen_nil
  | p :: rest, h => by
    have hp := h p List.mem_cons_self
    have hrest := leavesOpen_continued rest fun x hx => h x (List.mem_cons_of_mem _ hx)
    have hcomma : LeavesOpen 0 [.comma] := leavesOpen_plain rfl rfl
    rw [continued, List.flatMap_cons]
    exact (hp.append hcomma).append hrest

theorem leavesOpen_namedTokens {m : Text × Value} (h : LeavesOpen 0 m.2.tokens) :
    LeavesOpen 0 (namedTokens m) := by
  have hname : LeavesOpen 0 [.scalar (.string m.1)] := leavesOpen_plain rfl rfl
  have hcolon : LeavesOpen 0 [.colon] := leavesOpen_plain rfl rfl
  exact hname.append (hcolon.append h)

/-- In the tokens of a value all brackets are closed. -/
theorem leavesOpen_tokens (v : Value) : LeavesOpen 0 v.tokens := by
  induction v using Value.induction with
  | scalar v h =>
    rw [tokens_of_isScalar h]
    exact leavesOpen_plain rfl rfl
  | array items ih =>
    rw [tokens_array]
    refine (leavesOpen_enclosed (leavesOpen_separate _ fun p hp => ?_)).1
    obtain ⟨v, hv, rfl⟩ := List.mem_map.mp hp
    exact ih v hv
  | object members ih =>
    rw [tokens_object]
    refine (leavesOpen_enclosed (leavesOpen_separate _ fun p hp => ?_)).2
    obtain ⟨m, hm, rfl⟩ := List.mem_map.mp hp
    exact leavesOpen_namedTokens (ih m hm)

/-- In those of a value that is being read one is not. -/
theorem Frame.leavesOpen_tokens (f : Frame) : LeavesOpen 1 f.tokens := by
  have hitems (items : List Value) : LeavesOpen 0 (continued (items.reverse.map Value.tokens)) := by
    refine leavesOpen_continued _ fun p hp => ?_
    obtain ⟨v, -, rfl⟩ := List.mem_map.mp hp
    exact Json.leavesOpen_tokens v
  have hmembers (members : List (Text × Value)) :
      LeavesOpen 0 (continued (members.reverse.map namedTokens)) := by
    refine leavesOpen_continued _ fun p hp => ?_
    obtain ⟨m, -, rfl⟩ := List.mem_map.mp hp
    exact leavesOpen_namedTokens (Json.leavesOpen_tokens m.2)
  have hobject : LeavesOpen 1 [.openObject] := leavesOpen_open rfl
  cases f with
  | array items => exact (leavesOpen_open (t := .openArray) rfl).append (hitems items)
  | object members => exact hobject.append (hmembers members)
  | member members name =>
    have hname : LeavesOpen 0 [.scalar (.string name)] := leavesOpen_plain rfl rfl
    have hcolon : LeavesOpen 0 [.colon] := leavesOpen_plain rfl rfl
    exact hobject.append ((hmembers members).append (hname.append hcolon))

/-- **In a stack as many brackets are open as it is high.** -/
theorem leavesOpen_stackTokens : ∀ stack, LeavesOpen stack.length (stackTokens stack)
  | [] => leavesOpen_nil
  | f :: outer => (leavesOpen_stackTokens outer).append f.leavesOpen_tokens

end Brackets

end CellWidth.Json
