import CellWidth.Proofs.Trimming
import CellWidth.Settings.Switch
import Mathlib.Data.List.Forall2

/-!
# Which values are switches

A value says on or off if it is a boolean, or a text that is one of the eight words but for blanks around
it and for the case of ASCII letters (`IsWordFor`).

The reader compares lower cases, which are a matter of all of Unicode. Of that it matters only what comes
out within ASCII: outside ASCII there are but two characters with a letter of ASCII in their lower case,
and neither letter, `i` or `k`, is in a word. So any lower-casing of texts with this property
(`IsLowerCase`) serves as well as `lowerCase`, whatever else it does and whatever it makes of a character
in its context.

* `Settings.flatten_eq_iff` — which texts have a word for their lower case
* `Settings.readWord?_eq_some_iff` — which texts are words
* `Settings.readSwitch_recognises` — which values are switches
-/

namespace CellWidth.Settings

open CellWidth.Text

/-! ## Words up to case -/

/-- The words for a setting. -/
def wordsFor : Bool → List String
  | true => onWords
  | false => offWords

/-- A capital letter of ASCII as a small one; all else stays. -/
def smallLetter (c : Nat) : Nat :=
  if 0x41 ≤ c ∧ c ≤ 0x5A then c + 0x20 else c

/-- Two texts differ in the case of ASCII letters only. -/
def SameUpToCase (s t : List Nat) : Prop :=
  s.map smallLetter = t.map smallLetter

/-- The text is a word for the setting, but for the case of ASCII letters and for blanks around it. -/
def IsWordFor (on : Bool) (t : List Nat) : Prop :=
  ∃ before w after, t = before ++ w ++ after ∧
    (∀ c ∈ before, isBlank c = true) ∧ (∀ c ∈ after, isBlank c = true) ∧
    ∃ word ∈ wordsFor on, SameUpToCase w (points word)

/-- The characters of the words are digits and small letters, and neither `i` nor `k` is among them. -/
def IsWordChar (c : Nat) : Prop :=
  (0x30 ≤ c ∧ c ≤ 0x39) ∨ (0x61 ≤ c ∧ c ≤ 0x7A ∧ c ≠ 0x69 ∧ c ≠ 0x6B)

instance (c : Nat) : Decidable (IsWordChar c) :=
  inferInstanceAs (Decidable (_ ∨ _))

variable {c : Nat} {s t w : List Nat} {on : Bool} {word : String}

theorem isWordChar_of_mem (hword : word ∈ wordsFor on) : ∀ c ∈ points word, IsWordChar c := by
  have hall : ∀ on, ∀ word ∈ wordsFor on, ∀ c ∈ points word, IsWordChar c := by decide
  exact hall on word hword

/-- The words are written in small letters. -/
theorem smallLetter_of_isWordChar (h : IsWordChar c) : smallLetter c = c := by
  unfold IsWordChar at h
  rw [smallLetter, if_neg (by omega)]

theorem not_isBlank_of_alphanumeric
    (h : (0x30 ≤ c ∧ c ≤ 0x39) ∨ (0x41 ≤ c ∧ c ≤ 0x5A) ∨ (0x61 ≤ c ∧ c ≤ 0x7A)) :
    isBlank c = false := by
  simp only [isBlank, Bool.or_eq_false_iff, Bool.and_eq_false_iff, decide_eq_false_iff_not,
    beq_eq_false_iff_ne]
  omega

/-- Case makes no blank, and none is lost by it. -/
theorem isBlank_smallLetter (c : Nat) : isBlank (smallLetter c) = isBlank c := by
  unfold smallLetter
  split
  · rw [not_isBlank_of_alphanumeric (by omega), not_isBlank_of_alphanumeric (by omega)]
  · rfl

/-- A character of which the small letter is in a word is no blank, and is within ASCII. -/
theorem of_isWordChar_smallLetter (h : IsWordChar (smallLetter c)) :
    isBlank c = false ∧ c < 0x80 := by
  have hletter : (0x30 ≤ c ∧ c ≤ 0x39) ∨ (0x41 ≤ c ∧ c ≤ 0x5A) ∨ (0x61 ≤ c ∧ c ≤ 0x7A) := by
    unfold IsWordChar smallLetter at h
    split at h
    all_goals omega
  exact ⟨not_isBlank_of_alphanumeric hletter, by omega⟩

/-- So blanks can be trimmed before or after the case is changed. -/
theorem trimBy_map_smallLetter (t : List Nat) :
    trimBy isBlank (t.map smallLetter) = (trimBy isBlank t).map smallLetter := by
  have hblank : isBlank ∘ smallLetter = isBlank := funext isBlank_smallLetter
  rw [trimBy, trimBy, trimEndBy, trimEndBy, List.dropWhile_map, hblank, ← List.map_reverse,
    List.dropWhile_map, hblank, List.map_reverse]

theorem SameUpToCase.trimBy (h : SameUpToCase s t) :
    SameUpToCase (trimBy isBlank s) (trimBy isBlank t) := by
  unfold SameUpToCase at *
  rw [← trimBy_map_smallLetter, ← trimBy_map_smallLetter, h]

/-- What is a word but for the case consists of characters that are no blanks and within ASCII. -/
theorem SameUpToCase.of_mem (h : SameUpToCase w (points word)) (hword : word ∈ wordsFor on) :
    ∀ c ∈ w, isBlank c = false ∧ c < 0x80 := by
  intro c hc
  have hmem : smallLetter c ∈ (points word).map smallLetter := by
    rw [← h]
    exact List.mem_map_of_mem hc
  obtain ⟨x, hx, hcx⟩ := List.mem_map.mp hmem
  have hplain := isWordChar_of_mem hword x hx
  rw [smallLetter_of_isWordChar hplain] at hcx
  exact of_isWordChar_smallLetter (hcx ▸ hplain)

/-- A text is a word among blanks if it is one when they are trimmed. -/
theorem isWordFor_iff :
    IsWordFor on t ↔ ∃ word ∈ wordsFor on, SameUpToCase (trimBy isBlank t) (points word) := by
  constructor
  · rintro ⟨before, w, after, rfl, hbefore, hafter, word, hword, hw⟩
    have hsolid := hw.of_mem hword
    have htrimmed : IsTrimmed isBlank w :=
      ⟨fun c hc => (hsolid c (List.mem_of_mem_head? hc)).1,
        fun c hc => (hsolid c (List.mem_of_mem_getLast? hc)).1⟩
    rw [trimBy_around hbefore htrimmed hafter]
    exact ⟨word, hword, hw⟩
  · rintro ⟨word, hword, hw⟩
    obtain ⟨before, after, ht, hbefore, hafter⟩ := exists_eq_around_trimBy isBlank t
    exact ⟨before, _, after, ht, hbefore, hafter, word, hword, hw⟩

/-! ## Lower case -/

/-- What a character may become in lower case: a small letter, if it is within ASCII, and else anything
that has no character of ASCII but `i` and `k`. -/
def LowersTo (c : Nat) (p : List Nat) : Prop :=
  if c < 0x80 then p = [smallLetter c] else p ≠ [] ∧ ∀ x ∈ p, x < 0x80 → x = 0x69 ∨ x = 0x6B

/-- A function gives each character of a text a lower case, which may hang on the characters around it. -/
def IsLowerCase (lower : List Nat → List Nat) : Prop :=
  ∀ t, ∃ ps, List.Forall₂ LowersTo t ps ∧ lower t = ps.flatten

/-- The lower case that is read with is one of those allowed. -/
theorem lowersTo_lowerCase (c : Nat) : LowersTo c (lowerCase c) := by
  unfold LowersTo lowerCase smallLetter
  split
  next hascii =>
    split
    · rfl
    · rw [if_neg (by omega), if_neg (by omega)]
  next hother =>
    rw [if_neg (by omega)]
    split
    · simp
    · split
      · simp
      · simpa using fun h : c < 0x80 => absurd h hother

theorem isLowerCase_flatMap : IsLowerCase fun t => t.flatMap lowerCase := by
  intro t
  refine ⟨t.map lowerCase, ?_, List.flatMap_def⟩
  exact List.forall₂_map_right_iff.mpr (List.forall₂_same.mpr fun c _ => lowersTo_lowerCase c)

/-- **The lower case of a text is a word if the text is the word up to case.** No other character becomes
part of a word. -/
theorem flatten_eq_iff {ps : List (List Nat)} (h : List.Forall₂ LowersTo t ps)
    (hw : ∀ c ∈ w, IsWordChar c) : ps.flatten = w ↔ t.map smallLetter = w := by
  induction h generalizing w with
  | nil => simp
  | @cons c p t ps hc h ih =>
    rw [List.flatten_cons, List.map_cons]
    unfold LowersTo at hc
    split at hc
    · subst hc
      cases w with
      | nil => simp
      | cons x w =>
        obtain ⟨-, hrest⟩ := List.forall_mem_cons.mp hw
        rw [List.singleton_append, List.cons.injEq, List.cons.injEq, ih hrest]
    next hother =>
      -- Here neither side can hold: a word begins neither with this lower case nor with the character.
      obtain ⟨hne, hascii⟩ := hc
      obtain ⟨x, p, rfl⟩ := List.exists_cons_of_ne_nil hne
      constructor
      · intro heq
        have hx : IsWordChar x := hw x (by simp [← heq])
        have hletter := hascii x List.mem_cons_self
        unfold IsWordChar at hx
        omega
      · intro heq
        have hsmall : IsWordChar (smallLetter c) := hw _ (by simp [← heq])
        exact absurd (of_isWordChar_smallLetter hsmall).2 hother

/-! ## Reading -/

theorem contains_points_iff {words : List String} :
    (words.map points).contains w = true ↔ ∃ word ∈ words, w = points word := by
  rw [List.contains_iff_mem, List.mem_map]
  simp only [eq_comm]

/-- No word is one for on and one for off. -/
theorem not_contains_onWords (h : (offWords.map points).contains w = true) :
    (onWords.map points).contains w = false := by
  have hapart : ∀ word ∈ offWords, (onWords.map points).contains (points word) = false := by decide
  obtain ⟨word, hword, rfl⟩ := contains_points_iff.mp h
  exact hapart word hword

/-- The comparison is with each of the words. -/
theorem wordValue?_eq_some_iff : wordValue? w = some on ↔ ∃ word ∈ wordsFor on, w = points word := by
  cases on with
  | true =>
    rw [wordsFor, ← contains_points_iff, wordValue?]
    cases (onWords.map points).contains w with
    | true => simp
    | false => simp
  | false =>
    rw [wordsFor, ← contains_points_iff, wordValue?]
    cases hoff : (offWords.map points).contains w with
    | true =>
      rw [not_contains_onWords hoff]
      simp
    | false => simp

/-- **Read with any lower-casing, a text says what it is a word for.** -/
theorem wordValue?_lower_eq_some_iff {lower : List Nat → List Nat} (h : IsLowerCase lower) :
    wordValue? (lower (trimBy isBlank t)) = some on ↔ IsWordFor on t := by
  obtain ⟨ps, hps, heq⟩ := h (trimBy isBlank t)
  rw [heq, wordValue?_eq_some_iff, isWordFor_iff]
  refine exists_congr fun word => and_congr_right fun hword => ?_
  have hplain := isWordChar_of_mem hword
  have hsmall : (points word).map smallLetter = points word :=
    (List.map_congr_left fun c hc => smallLetter_of_isWordChar (hplain c hc)).trans (List.map_id' _)
  rw [flatten_eq_iff hps hplain, SameUpToCase, hsmall]

/-- **A text is read as what it is a word for.** -/
theorem readWord?_eq_some_iff : readWord? t = some on ↔ IsWordFor on t :=
  wordValue?_lower_eq_some_iff isLowerCase_flatMap

/-- Case and the blanks around a text make no difference, whether it is a word or not. -/
theorem readWord?_around {before after : List Nat} (hbefore : ∀ c ∈ before, isBlank c = true)
    (hafter : ∀ c ∈ after, isBlank c = true) (h : SameUpToCase s t) :
    readWord? (before ++ s ++ after) = readWord? t := by
  have htrimmed : SameUpToCase (trimBy isBlank (before ++ s ++ after)) (trimBy isBlank t) := by
    rw [trimBy_append_of_all hafter, trimBy_of_all_append hbefore]
    exact h.trimBy
  refine Option.ext fun on => ?_
  rw [readWord?_eq_some_iff, readWord?_eq_some_iff, isWordFor_iff, isWordFor_iff]
  unfold SameUpToCase at *
  rw [htrimmed]

/-- The characters of a word are blanks or within ASCII. -/
theorem IsWordFor.isBlank_or_lt (h : IsWordFor on t) : ∀ c ∈ t, isBlank c = true ∨ c < 0x80 := by
  obtain ⟨before, w, after, rfl, hbefore, hafter, word, hword, hw⟩ := h
  intro c hc
  rcases List.mem_append.mp hc with hc | hc
  · rcases List.mem_append.mp hc with hc | hc
    · exact .inl (hbefore c hc)
    · exact .inr (hw.of_mem hword c hc).2
  · exact .inl (hafter c hc)

/-- Only booleans and words are switches. -/
theorem readSwitch?_eq_some_iff {v : Json.Value} :
    readSwitch? v = some on ↔ v = .bool on ∨ ∃ t, v = .string t ∧ IsWordFor on t := by
  cases v with
  | bool b => simp [readSwitch?]
  | string t => simp [readSwitch?, readWord?_eq_some_iff]
  | _ => simp [readSwitch?]

theorem readSwitch_eq_ok_iff {v : Json.Value} : readSwitch v = .ok on ↔ readSwitch? v = some on := by
  unfold readSwitch
  cases readSwitch? v with
  | none => simp
  | some b => simp

theorem readSwitch_eq_error_iff {v : Json.Value} {r : NotASwitch} :
    readSwitch v = .error r ↔ r = ⟨v⟩ ∧ readSwitch? v = none := by
  unfold readSwitch
  cases readSwitch? v with
  | none => simp [eq_comm]
  | some b => simp

/-- **The values that are switches** are the booleans, which say themselves, and the texts that are a word
for on or for off. Every other value is refused by name. So blanks around a text and the case of its ASCII
letters never matter; a character beyond ASCII never counts as part of a word; and any lower-casing of all
of Unicode would do as well. -/
theorem readSwitch_recognises (v : Json.Value) :
    (∀ on, readSwitch v = .ok on ↔ v = .bool on ∨ ∃ t, v = .string t ∧ IsWordFor on t) ∧
    (∀ r, readSwitch v = .error r ↔
      r = ⟨v⟩ ∧ ¬ ∃ on, v = .bool on ∨ ∃ t, v = .string t ∧ IsWordFor on t) ∧
    (∀ before s t after, (∀ c ∈ before, isBlank c = true) → (∀ c ∈ after, isBlank c = true) →
      SameUpToCase s t →
      ∀ on, readSwitch (.string (before ++ s ++ after)) = .ok on ↔ readSwitch (.string t) = .ok on) ∧
    (∀ t on, readSwitch (.string t) = .ok on → ∀ c ∈ t, isBlank c = true ∨ c < 0x80) ∧
    (∀ lower, IsLowerCase lower → ∀ t, wordValue? (lower (trimBy isBlank t)) = readWord? t) := by
  refine ⟨fun on => ?_, fun r => ?_, ?_, fun t on h => ?_, fun lower hlower t => ?_⟩
  · rw [readSwitch_eq_ok_iff, readSwitch?_eq_some_iff]
  · simp only [readSwitch_eq_error_iff, ← readSwitch?_eq_some_iff, Option.eq_none_iff_forall_ne_some,
      not_exists, ne_eq]
  · intro before s t after hbefore hafter h on
    rw [readSwitch_eq_ok_iff, readSwitch_eq_ok_iff, readSwitch?, readSwitch?,
      readWord?_around hbefore hafter h]
  · rw [readSwitch_eq_ok_iff] at h
    exact (readWord?_eq_some_iff.mp h).isBlank_or_lt
  · refine Option.ext fun on => ?_
    rw [wordValue?_lower_eq_some_iff hlower, readWord?_eq_some_iff]

/-- A no-break space before the word, and capitals within. -/
example : readSwitch (.string (points "\u00a0tRuE\n")) = .ok true := by
  rfl

end CellWidth.Settings
