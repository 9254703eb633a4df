import CellWidth.Json.Token
import CellWidth.Proofs.Utf8
import Mathlib.Data.List.Chain

/-!
# How a text is spelled in a document

A code point can stand in a string in several ways: as it is, unless it is a control, the quote or the
backslash; after a backslash, if it has a letter there; by the number of its code unit; and, beyond
U+FFFF, by the numbers of a surrogate pair (`Spells`). Whichever way is taken for each code point, the
string is read as the text, and what is read as the text is one of its spellings. Two halves of a pair
that stand side by side are always one code point, so that a text which has them apart has no spelling.

The reader takes a string as code units first and joins the pairs afterwards, and so do the proofs.

* `Token.stringUnits_eq_some_iff` — the code units of a string
* `Token.exists_units_iff` — what the joining makes of them
* `Token.scalarFrom_quote_iff` — a string is read as the text that it spells, and as no other
-/

namespace CellWidth.Json.Token

variable {found units t : List Nat} {form cs rest : List Char} {u c high low : Nat} {v : Value}

/-! ## Code units -/

/-- The ways in which a code unit can stand in a string. -/
inductive SpellsUnit : Nat → List Char → Prop
  | plain {c : Char} (hcontrol : 0x20 ≤ c.toNat) (hquote : c ≠ '"') (hslash : c ≠ '\\') :
    SpellsUnit c.toNat [c]
  | short {letter : Char} {u : Nat} (h : shortEscape letter = some u) : SpellsUnit u ['\\', letter]
  | numbered {x y z w : Char} {u : Nat} (h : codeUnit x y z w = some u) :
    SpellsUnit u ['\\', 'u', x, y, z, w]

/-- Code units, spelled one after the other. -/
inductive SpellsUnits : List Nat → List Char → Prop
  | nil : SpellsUnits [] []
  | cons {u : Nat} {units : List Nat} {form rest : List Char} (hu : SpellsUnit u form)
    (hrest : SpellsUnits units rest) : SpellsUnits (u :: units) (form ++ rest)

/-- The reader takes a unit from any spelling of it. -/
theorem stringUnits_append (h : SpellsUnit u form) (found : List Nat) (rest : List Char) :
    stringUnits found (form ++ rest) = stringUnits (u :: found) rest := by
  cases h with
  | plain hcontrol hquote hslash =>
    rw [List.singleton_append, stringUnits]
    · rw [if_neg (Nat.not_lt.mpr hcontrol)]
    all_goals simp_all
  | short h =>
    show stringUnits found ('\\' :: _ :: rest) = _
    rw [stringUnits]
    · rw [h]
    · rintro _ _ _ _ _ rfl
      cases h
  | numbered h =>
    show stringUnits found ('\\' :: 'u' :: _ :: _ :: _ :: _ :: rest) = _
    rw [stringUnits, h]

theorem stringUnits_of_spelled (h : SpellsUnits units form) (rest : List Char) :
    ∀ found, stringUnits found (form ++ '"' :: rest) = some (found.reverse ++ units, rest) := by
  induction h with
  | nil =>
    intro found
    rw [List.append_nil]
    rfl
  | cons hu _ ih =>
    intro found
    rw [List.append_assoc, stringUnits_append hu, ih, List.reverse_cons, List.append_assoc]
    rfl

/-- Whatever the reader takes spells the units that it finds. -/
theorem spelled_of_stringUnits {all : List Nat} (h : stringUnits found cs = some (all, rest)) :
    ∃ units form, all = found.reverse ++ units ∧ cs = form ++ '"' :: rest ∧
      SpellsUnits units form := by
  fun_induction stringUnits found cs with
  | case1 => cases h
  | case2 found left =>
    obtain ⟨rfl, rfl⟩ := Prod.mk.inj (Option.some.inj h)
    exact ⟨[], [], (List.append_nil _).symm, rfl, .nil⟩
  | case3 => cases h
  | case4 found x y z w left u hu ih =>
    obtain ⟨units, form, rfl, rfl, hform⟩ := ih h
    exact ⟨u :: units, _, by simp, rfl, .cons (.numbered hu) hform⟩
  | case5 => cases h
  | case6 found letter left _ u hu ih =>
    obtain ⟨units, form, rfl, rfl, hform⟩ := ih h
    exact ⟨u :: units, _, by simp, rfl, .cons (.short hu) hform⟩
  | case7 => cases h
  | case8 found c left hquote _ hescape hcontrol ih =>
    -- A backslash at the very end stands alone, and nothing closes the string.
    have hslash : c ≠ '\\' := by
      rintro rfl
      cases left with
      | nil => cases h
      | cons d left => exact hescape d left rfl rfl
    obtain ⟨units, form, rfl, rfl, hform⟩ := ih h
    exact ⟨c.toNat :: units, _, by simp, rfl,
      .cons (.plain (Nat.le_of_not_lt hcontrol) hquote hslash) hform⟩

/-- **The code units of a string** are those that it spells. -/
theorem stringUnits_eq_some_iff :
    stringUnits [] cs = some (units, rest) ↔
      ∃ form, cs = form ++ '"' :: rest ∧ SpellsUnits units form := by
  constructor
  · intro h
    obtain ⟨_, form, rfl, rfl, hform⟩ := spelled_of_stringUnits h
    exact ⟨form, rfl, hform⟩
  · rintro ⟨form, rfl, hform⟩
    exact stringUnits_of_spelled hform rest []

/-! ## Pairs -/

/-- The two halves of a surrogate pair. -/
def IsPair (high low : Nat) : Prop :=
  isHighSurrogate high = true ∧ isLowSurrogate low = true

/-- The code point that a pair stands for. -/
def pairPoint (high low : Nat) : Nat :=
  0x10000 + (high - 0xD800) * 0x400 + (low - 0xDC00)

theorem joinPairs_pair (h : IsPair high low) (more : List Nat) :
    joinPairs (high :: low :: more) = pairPoint high low :: joinPairs more := by
  rw [joinPairs, if_pos (by simp [h.1, h.2])]
  rfl

/-- What begins with a second half is left as it is at its beginning. -/
theorem joinPairs_low (h : isLowSurrogate low = true) (more : List Nat) :
    joinPairs (low :: more) = low :: joinPairs more := by
  have hhigh : isHighSurrogate low = false := by
    simp only [isLowSurrogate, Bool.and_eq_true, decide_eq_true_eq] at h
    simp only [isHighSurrogate, Bool.and_eq_false_iff, decide_eq_false_iff_not]
    omega
  cases more with
  | nil => rfl
  | cons d more => rw [joinPairs, if_neg (by simp [hhigh])]

/-- A unit that makes no pair with what comes next stays. -/
theorem joinPairs_single (h : ∀ d ∈ (joinPairs units).head?, ¬IsPair u d) :
    joinPairs (u :: units) = u :: joinPairs units := by
  cases units with
  | nil => rfl
  | cons d more =>
    have hpair : ¬IsPair u d := fun hpair =>
      h d (by rw [joinPairs_low hpair.2]; rfl) hpair
    rw [joinPairs, if_neg (fun hboth => hpair (by simpa [IsPair] using hboth))]

/-- A point beyond the surrogates is no half of a pair. -/
theorem not_isPair_pairPoint (high low d : Nat) : ¬IsPair (pairPoint high low) d := by
  intro hpair
  have hhigh := hpair.1
  have hbeyond : 0x10000 ≤ pairPoint high low := by
    unfold pairPoint
    omega
  simp only [isHighSurrogate, Bool.and_eq_true, decide_eq_true_eq] at hhigh
  omega

/-- A second half at the beginning of what has been joined was there before. -/
theorem eq_of_head?_joinPairs {d first : Nat} (hd : d ∈ (joinPairs (first :: units)).head?)
    (hlow : isLowSurrogate d = true) : d = first := by
  cases units with
  | nil => exact (Option.some.inj hd).symm
  | cons second units =>
    rw [joinPairs] at hd
    split at hd
    · simp only [List.head?_cons, Option.mem_def, Option.some.injEq] at hd
      simp only [isLowSurrogate, Bool.and_eq_true, decide_eq_true_eq] at hlow
      omega
    · exact (Option.some.inj hd).symm

/-! ## Texts -/

/-- The ways in which a code point can stand in a string: as one code unit, or as a pair. -/
inductive Spells : Nat → List Char → Prop
  | single {c : Nat} {form : List Char} (h : SpellsUnit c form) : Spells c form
  | pair {high low : Nat} {form form' : List Char} (hhigh : SpellsUnit high form)
    (hlow : SpellsUnit low form') (h : IsPair high low) : Spells (pairPoint high low) (form ++ form')

/-- A text spelled code point by code point. The halves of a pair never stand side by side in it. -/
inductive SpellsText : List Nat → List Char → Prop
  | nil : SpellsText [] []
  | cons {c : Nat} {t : List Nat} {form rest : List Char} (hc : Spells c form)
    (hnext : ∀ d ∈ t.head?, ¬IsPair c d) (ht : SpellsText t rest) : SpellsText (c :: t) (form ++ rest)

/-- Before any text there can be a unit that is not the first half of a pair. -/
theorem SpellsText.unit (hc : SpellsUnit c form) (hhigh : isHighSurrogate c = false)
    (ht : SpellsText t rest) : SpellsText (c :: t) (form ++ rest) := by
  refine .cons (.single hc) (fun d _ hpair => ?_) ht
  exact absurd hpair.1 (by rw [hhigh]; nofun)

/-- The character can stand in a string as it is. -/
def isPlain (c : Char) : Bool :=
  0x20 ≤ c.toNat && c != '"' && c != '\\'

/-- A text of plain characters spells itself. -/
theorem spellsText_plain : ∀ {cs : List Char}, cs.all isPlain = true →
    SpellsText (cs.map Char.toNat) cs
  | [], _ => .nil
  | c :: cs, h => by
    rw [List.all_cons, Bool.and_eq_true] at h
    obtain ⟨hplain, hrest⟩ := h
    simp only [isPlain, Bool.and_eq_true, decide_eq_true_eq, bne_iff_ne] at hplain
    obtain ⟨⟨hcontrol, hquote⟩, hslash⟩ := hplain
    have hhigh : isHighSurrogate c.toNat = false := by
      have hbounds := (Text.Utf8.toNat_bounds c).2
      simp only [isHighSurrogate, Bool.and_eq_false_iff, decide_eq_false_iff_not]
      omega
    exact .unit (.plain hcontrol hquote hslash) hhigh (spellsText_plain hrest)

theorem spellsText_joinPairs (h : SpellsUnits units form) : SpellsText (joinPairs units) form := by
  fun_induction joinPairs units generalizing form with
  | case1 =>
    cases h
    exact .nil
  | case2 c =>
    cases h with
    | cons hc hrest =>
      cases hrest
      exact .cons (.single hc) nofun .nil
  | case3 high low more hpair ih =>
    cases h with
    | @cons _ _ form _ hhigh h =>
      cases h with
      | @cons _ _ form' rest hlow h =>
        rw [← List.append_assoc]
        exact .cons (.pair hhigh hlow (by simpa [IsPair] using hpair))
          (fun d _ => not_isPair_pairPoint high low d) (ih h)
  | case4 high low more hpair ih =>
    cases h with
    | cons hhigh h =>
      refine .cons (.single hhigh) (fun d hd hd' => ?_) (ih h)
      obtain rfl := eq_of_head?_joinPairs hd hd'.2
      exact hpair (by simpa [IsPair] using hd')

theorem exists_units_of_spelled (h : SpellsText t form) :
    ∃ units, SpellsUnits units form ∧ joinPairs units = t := by
  induction h with
  | nil => exact ⟨[], .nil, rfl⟩
  | cons hc hnext _ ih =>
    obtain ⟨units, hunits, rfl⟩ := ih
    cases hc with
    | single hc => exact ⟨_, .cons hc hunits, joinPairs_single hnext⟩
    | pair hhigh hlow hpair =>
      rw [List.append_assoc]
      exact ⟨_, .cons hhigh (.cons hlow hunits), joinPairs_pair hpair units⟩

/-- **What the joining makes of the units of a string** is the text that the string spells. -/
theorem exists_units_iff :
    (∃ units, SpellsUnits units form ∧ joinPairs units = t) ↔ SpellsText t form := by
  refine ⟨?_, exists_units_of_spelled⟩
  rintro ⟨units, h, rfl⟩
  exact spellsText_joinPairs h

/-- **A string is read as the text that it spells**, and as no other. -/
theorem scalarFrom_quote_iff :
    scalarFrom '"' cs = some (v, rest) ↔
      ∃ t form, v = .string t ∧ cs = form ++ '"' :: rest ∧ SpellsText t form := by
  show (stringUnits [] cs).map _ = _ ↔ _
  rw [Option.map_eq_some_iff]
  constructor
  · rintro ⟨⟨units, left⟩, h, he⟩
    obtain ⟨rfl, rfl⟩ := Prod.mk.inj he
    obtain ⟨form, rfl, hform⟩ := stringUnits_eq_some_iff.mp h
    exact ⟨_, form, rfl, rfl, exists_units_iff.mp ⟨units, hform, rfl⟩⟩
  · rintro ⟨t, form, rfl, rfl, hform⟩
    obtain ⟨units, hunits, rfl⟩ := exists_units_iff.mpr hform
    exact ⟨(units, rest), stringUnits_eq_some_iff.mpr ⟨form, rfl, hunits⟩, rfl⟩

end CellWidth.Json.Token
