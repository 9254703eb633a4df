import CellWidth.Proofs.Spelling
import Mathlib.Data.List.TakeWhile

/-!
# How the scalars of a document are written

A scalar is a word, a number or a string. A number is an integer part, which is a zero or begins with none,
with a sign before it and a fraction and an exponent behind it, all of which may be absent; without the last
two it is an integer, and has not too many digits (`SpellsNumber`).

The reader takes as much as it can. What it takes is the text of the scalar that it gives
(`Token.spelled_of_scalarFrom`). The text of a scalar is taken to its end if nothing comes after it that
could belong to it; between two tokens of a document there is always something that could not
(`Token.scalarFrom_of_spelled`).
-/

namespace CellWidth.Json.Token

variable {negative : Bool} {ds whole frac cs rest form form' : List Char} {c d : Char} {e : Int}
  {v w : Value}

/-! ## What is written -/

/-- One digit or more. -/
def IsDigits (ds : List Char) : Prop :=
  ds ≠ [] ∧ ∀ d ∈ ds, isDigit d = true

/-- The digits of an integer part: a zero alone, or digits that begin with another. -/
def IsWhole (ds : List Char) : Prop :=
  ds = ['0'] ∨ IsDigits ds ∧ ds.head? ≠ some '0'

/-- A minus sign, or nothing. -/
def signText (negative : Bool) : List Char :=
  if negative then ['-'] else []

/-- A number with its sign. -/
def signed (negative : Bool) (n : Nat) : Int :=
  if negative then -n else n

/-- The digits behind the point, of which there is none without a point. -/
inductive SpellsFraction : List Char → List Char → Prop
  | absent : SpellsFraction [] []
  | present {ds : List Char} (h : IsDigits ds) : SpellsFraction ds ('.' :: ds)

/-- An exponent; it is zero where there is none. -/
inductive SpellsExponent : Int → List Char → Prop
  | absent : SpellsExponent 0 []
  | bare {e : Char} {ds : List Char} (he : e = 'e' ∨ e = 'E') (h : IsDigits ds) :
    SpellsExponent (decimal ds) (e :: ds)
  | plus {e : Char} {ds : List Char} (he : e = 'e' ∨ e = 'E') (h : IsDigits ds) :
    SpellsExponent (decimal ds) (e :: '+' :: ds)
  | minus {e : Char} {ds : List Char} (he : e = 'e' ∨ e = 'E') (h : IsDigits ds) :
    SpellsExponent (-decimal ds) (e :: '-' :: ds)

/-- The texts of a number: an integer of no more digits than are allowed, or a number with a fraction or
an exponent or both. -/
inductive SpellsNumber : Value → List Char → Prop
  | integer (negative : Bool) {whole : List Char} (hwhole : IsWhole whole)
    (hlength : whole.length ≤ maxDigits) :
    SpellsNumber (.integer (signed negative (decimal whole))) (signText negative ++ whole)
  | real (negative : Bool) {whole frac form form' : List Char} {e : Int} (hwhole : IsWhole whole)
    (hfrac : SpellsFraction frac form) (he : SpellsExponent e form') (hsome : form ++ form' ≠ []) :
    SpellsNumber (.real (.ofDecimal negative (decimal (whole ++ frac)) (e - frac.length)))
      (signText negative ++ whole ++ (form ++ form'))

/-- The words. -/
inductive SpellsWord : Value → List Char → Prop
  | null : SpellsWord .null ['n', 'u', 'l', 'l']
  | true : SpellsWord (.bool true) ['t', 'r', 'u', 'e']
  | false : SpellsWord (.bool false) ['f', 'a', 'l', 's', 'e']
  | nan : SpellsWord (.real .nan) ['N', 'a', 'N']
  | infinity : SpellsWord (.real (.infinite false)) ['I', 'n', 'f', 'i', 'n', 'i', 't', 'y']
  | minusInfinity :
    SpellsWord (.real (.infinite true)) ['-', 'I', 'n', 'f', 'i', 'n', 'i', 't', 'y']

/-- The texts of a scalar. -/
inductive SpellsScalar : Value → List Char → Prop
  | word {v : Value} {form : List Char} (h : SpellsWord v form) : SpellsScalar v form
  | number {v : Value} {form : List Char} (h : SpellsNumber v form) : SpellsScalar v form
  | string {t : Text} {form : List Char} (h : SpellsText t form) :
    SpellsScalar (.string t) ('"' :: (form ++ ['"']))

/-! ## Digits -/

theorem IsDigits.takeWhile (hne : cs.takeWhile isDigit ≠ []) : IsDigits (cs.takeWhile isDigit) :=
  ⟨hne, fun _ hd => List.mem_takeWhile_imp hd⟩

/-- Nothing that comes next is a digit. -/
def NoDigit (rest : List Char) : Prop :=
  ∀ c ∈ rest.head?, isDigit c = false

/-- Digits are taken up to the next character that is none. -/
theorem takeWhile_append_of_noDigit (hds : ∀ d ∈ ds, isDigit d = true) (hrest : NoDigit rest) :
    (ds ++ rest).takeWhile isDigit = ds ∧ (ds ++ rest).dropWhile isDigit = rest := by
  rw [List.takeWhile_append_of_pos hds, List.dropWhile_append_of_pos hds]
  cases rest with
  | nil => exact ⟨List.append_nil ds, rfl⟩
  | cons c rest =>
    have hc : ¬isDigit c = true := by rw [hrest c rfl]; nofun
    rw [List.takeWhile_cons_of_neg hc, List.dropWhile_cons_of_neg hc]
    exact ⟨List.append_nil ds, rfl⟩

/-! ## Fractions -/

/-- What is split off as a fraction is one. -/
theorem spelled_of_fraction (cs : List Char) :
    ∃ form, cs = form ++ (fraction cs).2 ∧ SpellsFraction (fraction cs).1 form := by
  unfold fraction
  split
  · next rest =>
    split
    · exact ⟨[], rfl, .absent⟩
    · next hds =>
      refine ⟨'.' :: rest.takeWhile isDigit, ?_, .present (.takeWhile hds)⟩
      rw [List.cons_append, List.takeWhile_append_dropWhile]
  · exact ⟨[], rfl, .absent⟩

/-- Without digits there is no point, and without a point no digits. -/
theorem SpellsFraction.eq_nil_iff (h : SpellsFraction frac form) : frac = [] ↔ form = [] := by
  cases h with
  | absent => exact Iff.rfl
  | present h => exact ⟨fun hnil => absurd hnil h.1, nofun⟩

theorem fraction_of_spelled (h : SpellsFraction frac form) (hdigit : NoDigit rest)
    (hpoint : rest.head? ≠ some '.') : fraction (form ++ rest) = (frac, rest) := by
  cases h with
  | absent =>
    unfold fraction
    split
    · next heq => exact absurd (congrArg List.head? heq) hpoint
    · rfl
  | present h =>
    obtain ⟨htake, hdrop⟩ := takeWhile_append_of_noDigit h.2 hdigit
    rw [List.cons_append, fraction, htake, hdrop]
    split
    · exact absurd rfl h.1
    · rfl

/-! ## Exponents -/

theorem spelled_of_exponentDigits (h : exponentDigits negative cs = some (e, rest)) :
    ∃ ds, cs = ds ++ rest ∧ IsDigits ds ∧ e = signed negative (decimal ds) := by
  unfold exponentDigits at h
  split at h
  · cases h
  · next hds =>
    obtain ⟨rfl, rfl⟩ := Prod.mk.inj (Option.some.inj h)
    exact ⟨_, List.takeWhile_append_dropWhile.symm, .takeWhile hds, rfl⟩

theorem exponentDigits_of_spelled (h : IsDigits ds) (hdigit : NoDigit rest) :
    exponentDigits negative (ds ++ rest) = some (signed negative (decimal ds), rest) := by
  obtain ⟨htake, hdrop⟩ := takeWhile_append_of_noDigit h.2 hdigit
  rw [exponentDigits, htake, hdrop]
  split
  · exact absurd rfl h.1
  · rfl

/-- What is split off as an exponent is one. -/
theorem spelled_of_exponent? (h : exponent? cs = some (e, rest)) :
    ∃ form, form ≠ [] ∧ cs = form ++ rest ∧ SpellsExponent e form := by
  unfold exponent? at h
  split at h
  · next mark left =>
    split at h
    · next hmark =>
      have hmark : mark = 'e' ∨ mark = 'E' := by simpa using hmark
      split at h
      · obtain ⟨ds, rfl, hds, rfl⟩ := spelled_of_exponentDigits h
        exact ⟨_, List.cons_ne_nil _ _, rfl, .plus hmark hds⟩
      · obtain ⟨ds, rfl, hds, rfl⟩ := spelled_of_exponentDigits h
        exact ⟨_, List.cons_ne_nil _ _, rfl, .minus hmark hds⟩
      · obtain ⟨ds, rfl, hds, rfl⟩ := spelled_of_exponentDigits h
        exact ⟨_, List.cons_ne_nil _ _, rfl, .bare hmark hds⟩
    · cases h
  · cases h

/-- Digits do not begin with a sign. -/
theorem IsDigits.ne_sign (h : IsDigits (c :: cs)) : c ≠ '+' ∧ c ≠ '-' := by
  have hc := h.2 c List.mem_cons_self
  constructor
  · rintro rfl
    exact absurd hc (by decide)
  · rintro rfl
    exact absurd hc (by decide)

/-- The letter before an exponent, as the reader asks for it. -/
theorem exponent?_cons {mark : Char} (h : mark = 'e' ∨ mark = 'E') (cs : List Char) :
    exponent? (mark :: cs) =
      match cs with
      | '+' :: ds => exponentDigits false ds
      | '-' :: ds => exponentDigits true ds
      | ds => exponentDigits false ds :=
  if_pos (by simpa using h)

theorem exponent?_of_spelled (h : SpellsExponent e form) (hne : form ≠ []) (hdigit : NoDigit rest) :
    exponent? (form ++ rest) = some (e, rest) := by
  cases h with
  | absent => exact absurd rfl hne
  | @bare _ ds he h =>
    rw [List.cons_append, exponent?_cons he]
    have hread : exponentDigits false (ds ++ rest) = some ((decimal ds : Int), rest) :=
      exponentDigits_of_spelled h hdigit
    split
    · next heq =>
      cases ds with
      | nil => exact absurd rfl h.1
      | cons d ds => exact absurd (List.cons.inj heq).1 h.ne_sign.1
    · next heq =>
      cases ds with
      | nil => exact absurd rfl h.1
      | cons d ds => exact absurd (List.cons.inj heq).1 h.ne_sign.2
    · exact hread
  | plus he h =>
    rw [List.cons_append, exponent?_cons he]
    exact exponentDigits_of_spelled h hdigit
  | minus he h =>
    rw [List.cons_append, exponent?_cons he]
    exact exponentDigits_of_spelled h hdigit

theorem exponent?_eq_none (h : ∀ c ∈ rest.head?, c ≠ 'e' ∧ c ≠ 'E') : exponent? rest = none := by
  cases rest with
  | nil => rfl
  | cons c rest => exact if_neg (by simpa using h c rfl)

/-! ## Numbers -/

/-- What is taken behind an integer part makes a number of it. -/
theorem spelled_of_numberFrom (hwhole : IsWhole whole)
    (h : numberFrom negative whole cs = some (v, rest)) :
    ∃ form, cs = form ++ rest ∧ SpellsNumber v (signText negative ++ whole ++ form) := by
  obtain ⟨form, hcs, hfrac⟩ := spelled_of_fraction cs
  simp only [numberFrom] at h
  split at h
  · next e left he =>
    obtain ⟨form', hne, hleft, hexponent⟩ := spelled_of_exponent? he
    obtain ⟨rfl, rfl⟩ := Prod.mk.inj (Option.some.inj h)
    refine ⟨form ++ form', ?_, .real negative hwhole hfrac hexponent (by simp [hne])⟩
    rw [List.append_assoc, ← hleft, ← hcs]
  · split at h
    · next hnone =>
      split at h
      · cases h
      next hlength =>
        obtain ⟨rfl, rfl⟩ := Prod.mk.inj (Option.some.inj h)
        obtain rfl := hfrac.eq_nil_iff.mp hnone
        refine ⟨[], hcs, ?_⟩
        rw [List.append_nil]
        exact .integer negative hwhole (Nat.le_of_not_lt hlength)
    · next hsome =>
      obtain ⟨rfl, rfl⟩ := Prod.mk.inj (Option.some.inj h)
      refine ⟨form, hcs, ?_⟩
      have hform : form ≠ [] := fun hnil => hsome (hfrac.eq_nil_iff.mpr hnil)
      have hreal := SpellsNumber.real negative hwhole hfrac .absent (by simpa using hform)
      rwa [Int.zero_sub, List.append_nil] at hreal

/-- What comes next belongs to no scalar: it is a space, a bracket or a separator, or the end. -/
def EndsBefore (rest : List Char) : Prop :=
  ∀ c ∈ rest.head?, isSpace c = true ∨ (mark? c).isSome = true

/-- So it is no part of a number. -/
theorem EndsBefore.no_number (h : EndsBefore rest) :
    ∀ c ∈ rest.head?, isDigit c = false ∧ c ≠ '.' ∧ c ≠ 'e' ∧ c ≠ 'E' := by
  intro c hc
  rcases h c hc with hspace | hmark
  · simp only [isSpace, Bool.or_eq_true, beq_iff_eq] at hspace
    rcases hspace with ((rfl | rfl) | rfl) | rfl
    all_goals decide
  · unfold mark? at hmark
    split at hmark
    case h_7 => cases hmark
    all_goals decide

theorem EndsBefore.noDigit (h : EndsBefore rest) : NoDigit rest :=
  fun c hc => (h.no_number c hc).1

theorem EndsBefore.ne_point (h : EndsBefore rest) : rest.head? ≠ some '.' :=
  fun hc => (h.no_number '.' hc).2.1 rfl

theorem EndsBefore.exponent?_eq_none (h : EndsBefore rest) : exponent? rest = none :=
  Token.exponent?_eq_none fun c hc => (h.no_number c hc).2.2

theorem numberFrom_of_integer (hlength : whole.length ≤ maxDigits) (hrest : EndsBefore rest) :
    numberFrom negative whole rest =
      some (.integer (signed negative (decimal whole)), rest) := by
  have hfraction : fraction rest = ([], rest) :=
    fraction_of_spelled .absent hrest.noDigit hrest.ne_point
  simp only [numberFrom, hfraction, hrest.exponent?_eq_none, if_neg (Nat.not_lt.mpr hlength)]
  rfl

/-- An exponent begins with its letter, which belongs to no digits and is no point. -/
theorem SpellsExponent.no_fraction (h : SpellsExponent e form) (hne : form ≠ [])
    (rest : List Char) : NoDigit (form ++ rest) ∧ (form ++ rest).head? ≠ some '.' := by
  have hletter {mark : Char} (hmark : mark = 'e' ∨ mark = 'E') (cs : List Char) :
      NoDigit (mark :: cs) ∧ (mark :: cs).head? ≠ some '.' := by
    rcases hmark with rfl | rfl
    · exact ⟨fun c hc => Option.some.inj hc ▸ rfl, by simp⟩
    · exact ⟨fun c hc => Option.some.inj hc ▸ rfl, by simp⟩
  cases h with
  | absent => exact absurd rfl hne
  | bare he _ => exact hletter he _
  | plus he _ => exact hletter he _
  | minus he _ => exact hletter he _

/-- Neither a fraction nor an exponent begins with a digit. -/
theorem noDigit_append (hfrac : SpellsFraction frac form) (he : SpellsExponent e form')
    (hsome : form ++ form' ≠ []) (rest : List Char) : NoDigit (form ++ (form' ++ rest)) := by
  cases hfrac with
  | absent => exact (he.no_fraction hsome rest).1
  | present _ => exact fun c hc => Option.some.inj hc ▸ rfl

theorem numberFrom_of_real (hfrac : SpellsFraction frac form) (he : SpellsExponent e form')
    (hsome : form ++ form' ≠ []) (hrest : EndsBefore rest) :
    numberFrom negative whole (form ++ (form' ++ rest)) =
      some (.real (.ofDecimal negative (decimal (whole ++ frac)) (e - frac.length)), rest) := by
  by_cases hnone : form' = []
  · subst hnone
    cases he
    have hfraction : fraction (form ++ rest) = (frac, rest) :=
      fraction_of_spelled hfrac hrest.noDigit hrest.ne_point
    have hne : frac ≠ [] := fun hnil => hsome (by rw [hfrac.eq_nil_iff.mp hnil]; rfl)
    simp only [numberFrom, List.nil_append, hfraction, hrest.exponent?_eq_none, Int.zero_sub]
  · have hexponent := exponent?_of_spelled he hnone hrest.noDigit
    obtain ⟨hdigit, hpoint⟩ := he.no_fraction hnone rest
    have hfraction : fraction (form ++ (form' ++ rest)) = (frac, form' ++ rest) :=
      fraction_of_spelled hfrac hdigit hpoint
    simp only [numberFrom, hfraction, hexponent]

/-- The digits of an integer part are taken together. -/
theorem unsigned_of_whole (h : IsWhole (c :: ds)) (hdigit : NoDigit cs) :
    unsigned negative c (ds ++ cs) = numberFrom negative (c :: ds) cs := by
  rcases h with hzero | ⟨hds, hhead⟩
  · obtain ⟨rfl, rfl⟩ := List.cons.inj hzero
    rfl
  · have hzero : ¬(c == '0') = true := by simpa using hhead
    obtain ⟨htake, hdrop⟩ := takeWhile_append_of_noDigit
      (fun d hd => hds.2 d (List.mem_cons_of_mem c hd)) hdigit
    rw [unsigned, if_neg hzero, if_pos (hds.2 c List.mem_cons_self), htake, hdrop]

theorem spelled_of_unsigned (h : unsigned negative c cs = some (v, rest)) :
    ∃ form, c :: cs = form ++ rest ∧ SpellsNumber v (signText negative ++ form) := by
  unfold unsigned at h
  split at h
  · next hzero =>
    obtain rfl := eq_of_beq hzero
    obtain ⟨form, rfl, hform⟩ := spelled_of_numberFrom (Or.inl rfl) h
    exact ⟨'0' :: form, rfl, by rwa [List.append_assoc] at hform⟩
  · next hzero =>
    split at h
    · next hc =>
      have hwhole : IsWhole (c :: cs.takeWhile isDigit) := by
        refine Or.inr ⟨⟨List.cons_ne_nil _ _, ?_⟩, by simpa using hzero⟩
        exact List.forall_mem_cons.mpr ⟨hc, fun d hd => List.mem_takeWhile_imp hd⟩
      obtain ⟨form, hcs, hform⟩ := spelled_of_numberFrom hwhole h
      refine ⟨c :: (cs.takeWhile isDigit ++ form), ?_, by rwa [List.append_assoc] at hform⟩
      rw [List.cons_append, List.append_assoc, ← hcs, List.takeWhile_append_dropWhile]
    · cases h

/-! ## Words -/

theorem after?_eq_some_iff : ∀ {w cs : List Char}, after? w cs = some rest ↔ cs = w ++ rest
  | [], cs => by rw [after?, Option.some.injEq]; rfl
  | _ :: _, [] => ⟨nofun, nofun⟩
  | d :: w, c :: cs => by
    rw [after?, List.cons_append, List.cons.injEq]
    by_cases h : d = c
    · rw [if_pos h, after?_eq_some_iff]
      exact ⟨fun hcs => ⟨h.symm, hcs⟩, And.right⟩
    · rw [if_neg h]
      exact ⟨nofun, fun hcs => absurd hcs.1.symm h⟩

theorem eq_of_word {text : String} (h : word text v cs = some (w, rest)) :
    w = v ∧ cs = text.toList ++ rest := by
  obtain ⟨left, hleft, he⟩ := Option.map_eq_some_iff.mp h
  obtain ⟨rfl, rfl⟩ := Prod.mk.inj he
  exact ⟨rfl, after?_eq_some_iff.mp hleft⟩

/-! ## Scalars -/

/-- **What is taken as a scalar is the text of one.** -/
theorem spelled_of_scalarFrom (h : scalarFrom c cs = some (v, rest)) :
    ∃ form, c :: cs = form ++ rest ∧ SpellsScalar v form := by
  by_cases hquote : c = '"'
  · subst hquote
    obtain ⟨t, form, rfl, rfl, hform⟩ := scalarFrom_quote_iff.mp h
    exact ⟨'"' :: (form ++ ['"']), by simp, .string hform⟩
  · unfold scalarFrom at h
    split at h
    · exact absurd rfl hquote
    · obtain ⟨rfl, rfl⟩ := eq_of_word h
      exact ⟨_, rfl, .word .null⟩
    · obtain ⟨rfl, rfl⟩ := eq_of_word h
      exact ⟨_, rfl, .word .true⟩
    · obtain ⟨rfl, rfl⟩ := eq_of_word h
      exact ⟨_, rfl, .word .false⟩
    · obtain ⟨rfl, rfl⟩ := eq_of_word h
      exact ⟨_, rfl, .word .nan⟩
    · obtain ⟨rfl, rfl⟩ := eq_of_word h
      exact ⟨_, rfl, .word .infinity⟩
    · split at h
      · obtain ⟨rfl, rfl⟩ := eq_of_word h
        exact ⟨_, rfl, .word .minusInfinity⟩
      · obtain ⟨form, hcs, hform⟩ := spelled_of_unsigned h
        exact ⟨'-' :: form, by rw [hcs]; rfl, .number hform⟩
      · cases h
    · obtain ⟨form, hcs, hform⟩ := spelled_of_unsigned h
      exact ⟨form, hcs, .number hform⟩

/-- After the sign there is a number, unless it is infinity. -/
theorem scalarFrom_minus (hc : c ≠ 'I') (cs : List Char) :
    scalarFrom '-' (c :: cs) = unsigned true c cs := by
  unfold scalarFrom
  split
  case h_7 =>
    split
    next heq => exact absurd (List.cons.inj heq).1 hc
    next heq =>
      obtain ⟨rfl, rfl⟩ := List.cons.inj heq
      rfl
    next heq => cases heq
  case h_8 hminus => exact absurd rfl hminus
  all_goals contradiction

/-- A digit begins a number and nothing else. -/
theorem scalarFrom_digit (h : isDigit c = true) (cs : List Char) :
    isSpace c = false ∧ mark? c = none ∧ scalarFrom c cs = unsigned false c cs ∧
      scalarFrom '-' (c :: cs) = unsigned true c cs := by
  have hne {d : Char} (hd : isDigit d = false) : c ≠ d := by
    rintro rfl
    rw [h] at hd
    cases hd
  refine ⟨?_, ?_, ?_, ?_⟩
  · simp [isSpace, hne (d := ' ') rfl, hne (d := '\t') rfl, hne (d := '\n') rfl, hne (d := '\r') rfl]
  · unfold mark?
    split
    case h_7 => rfl
    all_goals exact absurd rfl (hne rfl)
  · unfold scalarFrom
    split
    case h_8 => rfl
    all_goals exact absurd rfl (hne rfl)
  · exact scalarFrom_minus (hne rfl) cs

theorem IsWhole.exists_digit (h : IsWhole whole) :
    ∃ c ds, whole = c :: ds ∧ isDigit c = true := by
  rcases h with rfl | ⟨⟨hne, hall⟩, -⟩
  · exact ⟨'0', [], rfl, rfl⟩
  · obtain ⟨c, ds, rfl⟩ := List.exists_cons_of_ne_nil hne
    exact ⟨c, ds, rfl, hall c List.mem_cons_self⟩

/-- An integer part, the sign before it and what follows it, up to the end of the number. -/
theorem scalarFrom_of_whole (negative : Bool) (hwhole : IsWhole whole) (hdigit : NoDigit cs)
    (h : numberFrom negative whole cs = some (v, rest)) :
    ∃ c left, signText negative ++ whole ++ cs = c :: left ∧ isSpace c = false ∧ mark? c = none ∧
      scalarFrom c left = some (v, rest) := by
  obtain ⟨c, ds, rfl, hc⟩ := hwhole.exists_digit
  obtain ⟨hspace, hmark, hplain, hminus⟩ := scalarFrom_digit hc (ds ++ cs)
  rw [← unsigned_of_whole hwhole hdigit] at h
  cases negative with
  | false => exact ⟨c, ds ++ cs, rfl, hspace, hmark, hplain.trans h⟩
  | true => exact ⟨'-', c :: (ds ++ cs), rfl, rfl, rfl, hminus.trans h⟩

/-- **The text of a scalar is taken to its end**, if what comes next belongs to none. -/
theorem scalarFrom_of_spelled (h : SpellsScalar v form) (hrest : EndsBefore rest) :
    ∃ c left, form ++ rest = c :: left ∧ isSpace c = false ∧ mark? c = none ∧
      scalarFrom c left = some (v, rest) := by
  cases h with
  | word h =>
    cases h with
    | null => exact ⟨_, _, rfl, rfl, rfl, rfl⟩
    | true => exact ⟨_, _, rfl, rfl, rfl, rfl⟩
    | false => exact ⟨_, _, rfl, rfl, rfl, rfl⟩
    | nan => exact ⟨_, _, rfl, rfl, rfl, rfl⟩
    | infinity => exact ⟨_, _, rfl, rfl, rfl, rfl⟩
    | minusInfinity => exact ⟨_, _, rfl, rfl, rfl, rfl⟩
  | number h =>
    cases h with
    | integer negative hwhole hlength =>
      exact scalarFrom_of_whole negative hwhole hrest.noDigit (numberFrom_of_integer hlength hrest)
    | real negative hwhole hfrac he hsome =>
      have hread := scalarFrom_of_whole negative hwhole (noDigit_append hfrac he hsome rest)
        (numberFrom_of_real hfrac he hsome hrest)
      simpa only [List.append_assoc] using hread
  | @string t form h =>
    refine ⟨'"', form ++ '"' :: rest, by simp, rfl, rfl, ?_⟩
    exact scalarFrom_quote_iff.mpr ⟨t, form, rfl, rfl, h⟩

end CellWidth.Json.Token
