import CellWidth.Proofs.Scalars
import CellWidth.Proofs.Tokens

/-!
# How a text is cut into tokens

A text is written with tokens if it consists of their texts, with white space anywhere between them
(`Token.Writes`). This says nothing of how a text is cut, and it is not unique: `12` is also written with the
two numbers `1` and `2`. But no document has two scalars side by side, and of tokens without such neighbours
(`Token.Apart`) a text is written with one list at most, the one into which it is cut.

A beginning of a text is written with a beginning of its tokens, and the other way round if the beginning
ends in a bracket or a separator.

* `Token.cut_eq_iff` — the tokens of a text that is cut to its end
* `Token.exists_writes_of_begins`, `Token.begins_of_writes` — those of a beginning of it
* `Token.apart_tokens` — the tokens of a value
* `isDocument_iff` — a document, which is a text written with the tokens of a value
-/

namespace CellWidth.Json

namespace Token

variable {found ts ts' p : List Token} {b s : Token} {c : Char} {cs t u rest left form : List Char}
  {v : Value}

/-! ## Texts of tokens -/

/-- The text is written with these tokens, with white space anywhere between them. -/
inductive Writes : List Char → List Token → Prop
  | nil : Writes [] []
  | space {c : Char} {t : List Char} {ts : List Token} (h : isSpace c = true) (ht : Writes t ts) :
    Writes (c :: t) ts
  | mark {c : Char} {b : Token} {t : List Char} {ts : List Token} (h : mark? c = some b)
    (ht : Writes t ts) : Writes (c :: t) (b :: ts)
  | scalar {v : Value} {form t : List Char} {ts : List Token} (h : SpellsScalar v form)
    (ht : Writes t ts) : Writes (form ++ t) (scalar v :: ts)

/-- Texts side by side are written with their tokens side by side. -/
theorem Writes.append (h : Writes t ts) (h' : Writes u ts') : Writes (t ++ u) (ts ++ ts') := by
  induction h with
  | nil => exact h'
  | space h _ ih => exact .space h ih
  | mark h _ ih => exact .mark h ih
  | scalar h _ ih =>
    rw [List.append_assoc]
    exact .scalar h ih

theorem writes_mark (h : mark? c = some b) : Writes [c] [b] :=
  .mark h .nil

theorem writes_marks (h : mark? c = some b) : ∀ n, Writes (List.replicate n c) (List.replicate n b)
  | 0 => .nil
  | n + 1 => .mark h (writes_marks h n)

theorem writes_scalar (h : SpellsScalar v form) : Writes form [scalar v] := by
  have hwrites : Writes (form ++ []) [scalar v] := .scalar h .nil
  rwa [List.append_nil] at hwrites

/-! ## Tokens without neighbouring scalars -/

/-- The token is a scalar, and not a bracket or a separator. -/
def IsScalar : Token → Prop
  | scalar _ => True
  | _ => False

theorem not_isScalar_of_mark? (h : mark? c = some b) : ¬b.IsScalar := by
  unfold mark? at h
  split at h
  case h_7 => cases h
  all_goals
    obtain rfl := Option.some.inj h
    exact id

theorem not_isScalar_of_opens (h : b.opens = true) : ¬b.IsScalar := by
  cases b with
  | scalar v => cases h
  | _ => exact id

/-- No two scalars are side by side. -/
def Apart (ts : List Token) : Prop :=
  ts.IsChain fun s b => ¬(s.IsScalar ∧ b.IsScalar)

theorem Apart.of_begins (h : p <+: ts) (hts : Apart ts) : Apart p :=
  List.IsChain.prefix hts h

/-- A bracket or a separator can stand before any token. -/
theorem Apart.cons (hb : ¬b.IsScalar) (ht : Apart ts) : Apart (b :: ts) :=
  List.isChain_cons.mpr ⟨fun _ _ h => hb h.1, ht⟩

/-- It can stand between any two. -/
theorem Apart.around (hs : Apart ts) (hb : ¬b.IsScalar) (ht : Apart ts') : Apart (ts ++ b :: ts') := by
  refine List.isChain_append.mpr ⟨hs, ht.cons hb, ?_⟩
  intro x _ y hy h
  obtain rfl := Option.some.inj hy
  exact hb h.2

/-- Parts with commas between them are apart if each of them is. -/
theorem apart_separate : ∀ ps : List (List Token), (∀ p ∈ ps, Apart p) → Apart (separate ps)
  | [], _ => .nil
  | [p], h => h p List.mem_cons_self
  | p :: q :: rest, h =>
    (h p List.mem_cons_self).around id
      (apart_separate (q :: rest) fun x hx => h x (List.mem_cons_of_mem p hx))

theorem apart_enclosed (hts : Apart ts) (hb : ¬b.IsScalar) (hs : ¬s.IsScalar) :
    Apart (b :: (ts ++ [s])) :=
  .cons hb (hts.around hs .nil)

/-- The name of a member, and the colon behind it. -/
theorem apart_named (v : Value) (hts : Apart ts) : Apart (scalar v :: colon :: ts) :=
  have hname : Apart [scalar v] := .singleton _
  hname.around id hts

/-- **In the tokens of a value no two scalars are side by side.** -/
theorem apart_tokens (v : Value) : Apart v.tokens := by
  induction v using Value.induction with
  | scalar v h =>
    rw [tokens_of_isScalar h]
    exact .singleton _
  | array items ih =>
    rw [tokens_array]
    refine apart_enclosed (apart_separate _ fun p hp => ?_) id id
    obtain ⟨v, hv, rfl⟩ := List.mem_map.mp hp
    exact ih v hv
  | object members ih =>
    rw [tokens_object]
    refine apart_enclosed (apart_separate _ fun p hp => ?_) id id
    obtain ⟨m, hm, rfl⟩ := List.mem_map.mp hp
    exact apart_named _ (ih m hm)

/-! ## The steps of the cutter -/

theorem cutOnto_space (h : isSpace c = true) : cutOnto found (c :: rest) = cutOnto found rest := by
  rw [cutOnto, if_pos h]

theorem isSpace_of_mark? (h : mark? c = some b) : isSpace c = false := by
  unfold mark? at h
  split at h
  case h_7 => cases h
  all_goals rfl

theorem cutOnto_mark (h : mark? c = some b) :
    cutOnto found (c :: rest) = cutOnto (b :: found) rest := by
  rw [cutOnto, if_neg (by simp [isSpace_of_mark? h]), h]

theorem cutOnto_scalar (h : isSpace c = false) (hc : mark? c = none)
    (hv : scalarFrom c rest = some (v, left)) :
    cutOnto found (c :: rest) = cutOnto (scalar v :: found) left := by
  rw [cutOnto, if_neg (by simp [h]), hc]
  simp only
  split
  · next hnone => exact absurd (hv.symm.trans hnone) (by simp)
  · next v' left' hsome =>
    obtain ⟨rfl, rfl⟩ := Prod.mk.inj (Option.some.inj (hv.symm.trans hsome))
    rfl

theorem cutOnto_of_none (h : isSpace c = false) (hc : mark? c = none)
    (hnone : scalarFrom c rest = none) : cutOnto found (c :: rest) = (found.reverse, false) := by
  rw [cutOnto, if_neg (by simp [h]), hc]
  simp only
  split
  · rfl
  · next hsome => exact absurd (hsome.symm.trans hnone) (by simp)

/-! ## What is cut is written -/

/-- A beginning of tokens with one more in front. -/
theorem exists_writes_cons (hform : ∀ {t ts}, Writes t ts → Writes (form ++ t) (b :: ts))
    (h : ∀ p, p <+: ts → ∃ u rest, cs = u ++ rest ∧ Writes u p) :
    ∀ p, p <+: b :: ts → ∃ u rest, form ++ cs = u ++ rest ∧ Writes u p := by
  intro p hp
  cases p with
  | nil => exact ⟨[], _, rfl, .nil⟩
  | cons s p =>
    obtain ⟨rfl, hrest⟩ := List.cons_prefix_cons.mp hp
    obtain ⟨u, rest, rfl, hu⟩ := h p hrest
    exact ⟨form ++ u, rest, (List.append_assoc ..).symm, hform hu⟩

/-- What the cutter adds to what it has found is written, and so is each beginning of it. -/
theorem exists_writes_of_cutOnto (found : List Token) (cs : List Char) :
    ∃ ts, (cutOnto found cs).1 = found.reverse ++ ts ∧
      ((cutOnto found cs).2 = true → Writes cs ts) ∧
      ∀ p, p <+: ts → ∃ u rest, cs = u ++ rest ∧ Writes u p := by
  have hnone {cs : List Char} : ∀ p, p <+: [] → ∃ u rest, cs = u ++ rest ∧ Writes u p := by
    intro p hp
    obtain rfl := List.prefix_nil.mp hp
    exact ⟨[], cs, rfl, .nil⟩
  -- The cases are those of the cutter: the end, a space, a mark, and a scalar that cannot or can be read.
  fun_induction cutOnto found cs with
  | case1 found => exact ⟨[], (List.append_nil _).symm, fun _ => .nil, hnone⟩
  | case2 found c rest hspace ih =>
    obtain ⟨ts, hts, hall, hbegins⟩ := ih
    refine ⟨ts, hts, fun h => .space hspace (hall h), fun p hp => ?_⟩
    obtain ⟨u, left, rfl, hu⟩ := hbegins p hp
    exact ⟨c :: u, left, rfl, .space hspace hu⟩
  | case3 found c rest _ b hmark ih =>
    obtain ⟨ts, hts, hall, hbegins⟩ := ih
    have hcons {t : List Char} {ts : List Token} (ht : Writes t ts) : Writes ([c] ++ t) (b :: ts) :=
      .mark hmark ht
    exact ⟨b :: ts, by simpa using hts, fun h => .mark hmark (hall h), exists_writes_cons hcons hbegins⟩
  | case4 found c rest _ _ _ => exact ⟨[], (List.append_nil _).symm, nofun, hnone⟩
  | case5 found c rest _ _ v left hscalar _ ih =>
    obtain ⟨ts, hts, hall, hbegins⟩ := ih
    obtain ⟨form, hcs, hform⟩ := spelled_of_scalarFrom hscalar
    rw [hcs]
    refine ⟨scalar v :: ts, by simpa using hts, fun h => .scalar hform (hall h), ?_⟩
    exact exists_writes_cons (fun ht => .scalar hform ht) hbegins

/-- A text that is cut to its end is written with its tokens. -/
theorem writes_of_cut (h : cut t = (ts, true)) : Writes t ts := by
  obtain ⟨ts', hts, hall, -⟩ := exists_writes_of_cutOnto [] t
  rw [← cut, h] at hts hall
  rw [List.reverse_nil, List.nil_append] at hts
  obtain rfl : ts = ts' := hts
  exact hall rfl

/-- **A beginning of the tokens of a text is written by a beginning of the text.** -/
theorem exists_writes_of_begins (h : p <+: (cut t).1) : ∃ u rest, t = u ++ rest ∧ Writes u p := by
  obtain ⟨ts, hts, -, hbegins⟩ := exists_writes_of_cutOnto [] t
  exact hbegins p (by rwa [cut, hts] at h)

/-! ## What is written is cut -/

/-- What is written with other tokens than a scalar at the front belongs to no scalar before it. -/
theorem Writes.endsBefore (h : Writes t ts) (hhead : ∀ s ∈ ts.head?, ¬s.IsScalar)
    (hrest : ts = [] → EndsBefore rest) : EndsBefore (t ++ rest) := by
  cases h with
  | nil => exact hrest rfl
  | space h _ => exact fun c hc => Option.some.inj hc ▸ .inl h
  | mark h _ => exact fun c hc => Option.some.inj hc ▸ .inr (by rw [h]; rfl)
  | scalar h _ => exact absurd trivial (hhead _ rfl)

/-- **The cutter takes a text to its end**, if no two scalars of it are side by side and the last token is
no scalar that could go on. -/
theorem cutOnto_of_writes (h : Writes t ts) (hapart : Apart ts)
    (hlast : EndsBefore rest ∨ ∀ s ∈ ts.getLast?, ¬s.IsScalar) :
    ∀ found, cutOnto found (t ++ rest) = cutOnto (ts.reverse ++ found) rest := by
  have hstep {s : Token} {ts : List Token}
      (hlast : EndsBefore rest ∨ ∀ x ∈ (s :: ts).getLast?, ¬x.IsScalar) :
      EndsBefore rest ∨ ∀ x ∈ ts.getLast?, ¬x.IsScalar := by
    refine hlast.imp_right fun hlast x hx => hlast x ?_
    cases ts with
    | nil => cases hx
    | cons y ts => exact hx
  induction h with
  | nil => exact fun _ => rfl
  | space h _ ih => exact fun found => (cutOnto_space h).trans (ih hapart hlast found)
  | @mark c b t ts h _ ih =>
    intro found
    have htail := (List.isChain_cons.mp hapart).2
    rw [List.cons_append, cutOnto_mark h, ih htail (hstep hlast)]
    simp
  | @scalar v form t ts h ht ih =>
    intro found
    obtain ⟨hhead, htail⟩ := List.isChain_cons.mp hapart
    -- What comes next is no scalar, and so nothing of it can belong to this one.
    have hnext : EndsBefore (t ++ rest) := by
      refine ht.endsBefore (fun s hs hscalar => hhead s hs ⟨trivial, hscalar⟩) fun hnil => ?_
      subst hnil
      exact hlast.resolve_right fun hnot => hnot _ rfl trivial
    obtain ⟨c, left, hform, hspace, hmark, hread⟩ := scalarFrom_of_spelled h hnext
    rw [List.append_assoc, hform, cutOnto_scalar hspace hmark hread, ih htail (hstep hlast)]
    simp

/-- A text that is written so is cut to its end. -/
theorem cut_of_writes (h : Writes t ts) (hapart : Apart ts) : cut t = (ts, true) := by
  have hend : EndsBefore [] := nofun
  have hcut := cutOnto_of_writes h hapart (.inl hend) []
  rw [List.append_nil, List.append_nil] at hcut
  rw [cut, hcut, cutOnto, List.reverse_reverse]

/-- **The tokens of a text that is cut to its end** are those that it is written with. -/
theorem cut_eq_iff (hapart : Apart ts) : cut t = (ts, true) ↔ Writes t ts :=
  ⟨writes_of_cut, fun h => cut_of_writes h hapart⟩

/-- **What a beginning of a text is written with begins its tokens**, if it does not end in a scalar. -/
theorem begins_of_writes (h : Writes t ts) (hapart : Apart ts)
    (hlast : ∀ s ∈ ts.getLast?, ¬s.IsScalar) (rest : List Char) : ts <+: (cut (t ++ rest)).1 := by
  obtain ⟨more, hmore, -, -⟩ := exists_writes_of_cutOnto (ts.reverse ++ []) rest
  rw [cut, cutOnto_of_writes h hapart (.inr hlast), hmore, List.append_nil, List.reverse_reverse]
  exact List.prefix_append ts more

/-- The cutting ends where no scalar can be read. -/
theorem cut_of_none (h : Writes t ts) (hapart : Apart ts) (hlast : ∀ s ∈ ts.getLast?, ¬s.IsScalar)
    (hspace : isSpace c = false) (hmark : mark? c = none) (hnone : scalarFrom c rest = none) :
    cut (t ++ c :: rest) = (ts, false) := by
  rw [cut, cutOnto_of_writes h hapart (.inr hlast), cutOnto_of_none hspace hmark hnone,
    List.append_nil, List.reverse_reverse]

end Token

/-- The text is written with the tokens of the value. -/
def IsDocument (t : List Char) (v : Value) : Prop :=
  Token.Writes t v.tokens

/-- A document is cut into the tokens of its value, and only it is. -/
theorem isDocument_iff {t : List Char} {v : Value} :
    IsDocument t v ↔ Token.cut t = (v.tokens, true) :=
  (Token.cut_eq_iff (Token.apart_tokens v)).symm

end CellWidth.Json
