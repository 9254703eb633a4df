import CellWidth.Generator.DataLine
import CellWidth.Proofs.Numerals

/-!
# Reading the data lines that are written

A data line has two parts that matter, the code points and the value, and much that does not: the case
of the letters, blanks wherever they are allowed, and a comment. `DataLine.Form` is what does not
matter. Whatever it is, the code points and the value come back.

Every separator is met where it was written, because nothing before it looks like it: there is no
semicolon, dot or number sign among the digits and the blanks, and no number sign in the value. After
the separator it may stand again. So the value may hold semicolons, and the comment anything at all.

* `splitAt?_append`, `splitDots?_append` — a text is split at the first mark
* `valueOf_ending` — the value comes back from what follows the semicolon
* `readInterval_range`, `readInterval_number` — the code points come back
* `read_lineOf` — a line is read
-/

namespace CellWidth.Generator.DataLine

open CellWidth.Text CellWidth.Text.Hexadecimal

variable {mark c : Char} {t rest line codes value : List Char}

/-! ## Splitting -/

/-- A text is split at the first mark. -/
theorem splitAt?_append : ∀ {t : List Char}, mark ∉ t →
    splitAt? mark (t ++ mark :: rest) = some (t, rest)
  | [], _ => if_pos rfl
  | c :: t, h => by
    have ht := List.not_mem_of_not_mem_cons h
    rw [List.cons_append, splitAt?, if_neg (List.ne_of_not_mem_cons h).symm, splitAt?_append ht]
    rfl

theorem splitDots?_cons (h : c ≠ '.') (t : List Char) :
    splitDots? (c :: t) = (splitDots? t).map fun s => (c :: s.1, s.2) := by
  rw [splitDots?]
  exact fun _ hdot _ => h hdot

/-- It is split at the first two dots, if no dot is before them. -/
theorem splitDots?_append : ∀ {t : List Char}, '.' ∉ t →
    splitDots? (t ++ '.' :: '.' :: rest) = some (t, rest)
  | [], _ => rfl
  | c :: t, h => by
    have ht := List.not_mem_of_not_mem_cons h
    rw [List.cons_append, splitDots?_cons (List.ne_of_not_mem_cons h).symm, splitDots?_append ht]
    rfl

theorem splitDots?_eq_none : ∀ {t : List Char}, '.' ∉ t → splitDots? t = none
  | [], _ => rfl
  | c :: t, h => by
    have ht := List.not_mem_of_not_mem_cons h
    rw [splitDots?_cons (List.ne_of_not_mem_cons h).symm, splitDots?_eq_none ht]
    rfl

/-! ## Blanks -/

/-- Whether a character is a blank. -/
def isBlankChar (c : Char) : Bool :=
  isBlank c.toNat

theorem trim_eq (t : List Char) : trim t = trimBy isBlankChar t :=
  rfl

/-- Any text of blanks. -/
abbrev Blanks := { t : List Char // ∀ c ∈ t, isBlankChar c = true }

/-- Any text of spaces and tabs. -/
abbrev Spaces := { t : List Char // IsSpacing t }

/-- What is no blank is not among blanks. -/
theorem Blanks.not_mem (b : Blanks) (h : isBlankChar c = false) : c ∉ b.val := fun hc =>
  Bool.false_ne_true (h.symm.trans (b.property c hc))

theorem Spaces.not_mem (s : Spaces) (hspace : c ≠ ' ') (htab : c ≠ '\t') : c ∉ s.val := fun hc =>
  (s.property c hc).elim hspace htab

/-- Nothing in a written number is a blank. -/
theorem isBlankChar_of_isSolid (h : IsSolid t) (hc : c ∈ t) : isBlankChar c = false := by
  have hbounds := h c hc
  simp only [isBlankChar, isBlank, Bool.or_eq_false_iff, Bool.and_eq_false_iff,
    decide_eq_false_iff_not, beq_eq_false_iff_ne]
  omega

/-! ## The form of a line -/

/-- What does not matter in a data line: the case of the letters in its code points, the blanks around
its parts, and the comment if there is one. -/
structure Form where
  firstCase : LetterCase
  lastCase : LetterCase
  before : Blanks
  beforeDots : Spaces
  afterDots : Spaces
  beforeMark : Blanks
  afterMark : Blanks
  afterValue : Blanks
  comment : Option (List Char)
  after : Blanks

namespace Form

/-- How many places a code point has at least. -/
def places : Nat := 4

/-- A single code point. -/
def number (f : Form) (c : Int) : List Char :=
  write f.firstCase places c

/-- The code points of an interval. -/
def range (f : Form) (i : Interval) : List Char :=
  write f.firstCase places i.first ++ f.beforeDots.val ++ '.' :: '.' ::
    (f.afterDots.val ++ write f.lastCase places i.last)

/-- The comment with its number sign. -/
def remark (f : Form) : List Char :=
  match f.comment with
  | none => []
  | some t => '#' :: t

/-- What follows the semicolon. -/
def ending (f : Form) (value : List Char) : List Char :=
  f.afterMark.val ++ value ++ f.afterValue.val ++ (f.remark ++ f.after.val)

/-- The whole line. -/
def lineOf (f : Form) (codes value : List Char) : List Char :=
  f.before.val ++ (codes ++ f.beforeMark.val ++ ';' :: f.ending value)

end Form

/-! ## The value -/

/-- The blanks at the end of a line are of no concern to the value. -/
theorem valueOf_trimEndBy (t : List Char) : valueOf (trimEndBy isBlankChar t) = valueOf t := by
  obtain ⟨blanks, ht, hblanks⟩ := exists_eq_trimEndBy_append isBlankChar t
  conv => rhs; rw [ht]
  rw [valueOf, valueOf, List.takeWhile_append]
  split
  · next hall =>
    -- There is no number sign before the blanks, so they belong to what is trimmed.
    have hrest : ∀ c ∈ blanks.takeWhile (· != '#'), isBlankChar c = true := fun c hc =>
      hblanks c ((List.takeWhile_prefix _).mem hc)
    rw [trim_eq, trim_eq, trimBy_append_of_all hrest,
      (List.takeWhile_prefix _).eq_of_length hall]
  · rfl

theorem valueOf_of_not_mem (h : '#' ∉ t) : valueOf t = trim t := by
  have hall : ∀ c ∈ t, (c != '#') = true := fun c hc => bne_iff_ne.mpr (ne_of_mem_of_not_mem hc h)
  rw [valueOf, List.takeWhile_eq_self_iff.mpr hall]

theorem valueOf_append_comment (h : '#' ∉ t) (text : List Char) :
    valueOf (t ++ '#' :: text) = trim t := by
  have hall : ∀ c ∈ t, (c != '#') = true := fun c hc => bne_iff_ne.mpr (ne_of_mem_of_not_mem hc h)
  rw [valueOf, List.takeWhile_append_of_pos hall, List.takeWhile_cons_of_neg (by decide),
    List.append_nil]

/-- **The value comes back from what follows the semicolon.** -/
theorem valueOf_ending (f : Form) (hmark : '#' ∉ value) (hvalue : IsTrimmed isBlankChar value) :
    valueOf (f.ending value) = value := by
  have hblanks : ∀ b : Blanks, '#' ∉ b.val := fun b => b.not_mem (by decide)
  have htext : '#' ∉ f.afterMark.val ++ value ++ f.afterValue.val := by
    simp only [List.mem_append, hmark, hblanks, or_self, not_false_eq_true]
  have htrim : trim (f.afterMark.val ++ value ++ f.afterValue.val) = value :=
    trimBy_around f.afterMark.property hvalue f.afterValue.property
  rw [Form.ending, Form.remark]
  cases f.comment with
  | none =>
    have hall : '#' ∉ f.afterMark.val ++ value ++ f.afterValue.val ++ f.after.val := by
      simp only [List.mem_append, htext, hblanks, or_self, not_false_eq_true]
    rw [List.nil_append, valueOf_of_not_mem hall, trim_eq, trimBy_append_of_all f.after.property,
      ← trim_eq, htrim]
  | some text => rw [List.cons_append, valueOf_append_comment htext, htrim]

/-! ## The code points -/

theorem readEnd_eq {n : Int} (h : read? t = some n) : readEnd t = .ok n := by
  rw [readEnd, h]

/-- A mark is not in a written number, unless it is a digit or the sign. -/
theorem not_mem_write (k : LetterCase) (n : Int) (hdigit : digitValue c = none) (hminus : c ≠ '-') :
    c ∉ write k Form.places n := by
  intro hc
  obtain ⟨t, hdigits, -, ⟨-, hwrite⟩ | ⟨-, hwrite⟩⟩ := write_cases k Form.places n
  all_goals rw [hwrite] at hc
  · rcases List.mem_cons.mp hc with rfl | hc
    · exact hminus rfl
    · exact hdigits.ne hc hdigit rfl
  · exact hdigits.ne hc hdigit rfl

/-- A single code point comes back. -/
theorem readInterval_number (f : Form) (c : Int) :
    readInterval (f.number c) = .ok (.single c) := by
  have hdots : '.' ∉ f.number c := not_mem_write _ _ rfl (by decide)
  have hread : read? (f.number c) = some c :=
    read?_append_write f.firstCase Form.places c (List.forall_mem_nil _)
  rw [readInterval, ends, splitDots?_eq_none hdots]
  simp only [readEnd_eq hread]
  rfl

/-- The two ends of an interval come back. -/
theorem readInterval_range (f : Form) (i : Interval) : readInterval (f.range i) = .ok i := by
  have hspaces : ∀ s : Spaces, '.' ∉ s.val := fun s => s.not_mem (by decide) (by decide)
  have hnumber : ∀ k n, '.' ∉ write k Form.places n := fun k n => not_mem_write k n rfl (by decide)
  have hfirst : '.' ∉ write f.firstCase Form.places i.first ++ f.beforeDots.val := by
    simp only [List.mem_append, hspaces, hnumber, or_self, not_false_eq_true]
  have hlast : '.' ∉ f.afterDots.val ++ write f.lastCase Form.places i.last := by
    simp only [List.mem_append, hspaces, hnumber, or_self, not_false_eq_true]
  have hreadFirst := readEnd_eq
    (read?_write_append f.firstCase Form.places i.first f.beforeDots.property)
  have hreadLast := readEnd_eq
    (read?_append_write f.lastCase Form.places i.last f.afterDots.property)
  rw [readInterval, Form.range, ends, splitDots?_append hfirst]
  simp only [splitDots?_eq_none hlast, hreadFirst, hreadLast]

/-! ## The line -/

/-- A text that can stand before the semicolon: it is set off from blanks and comments, holds no
semicolon, and is read as an interval. -/
structure IsCodes (codes : List Char) (i : Interval) : Prop where
  ne_nil : codes ≠ []
  head : ∀ c ∈ codes.head?, isBlankChar c = false ∧ c ≠ '#'
  last : ∀ c ∈ codes.getLast?, isBlankChar c = false
  noMark : ';' ∉ codes
  reads : readInterval codes = .ok i

/-- A text that begins with a number is set off from blanks and comments. -/
theorem head_write_append (k : LetterCase) (n : Int) (t : List Char) :
    ∀ c ∈ (write k Form.places n ++ t).head?, isBlankChar c = false ∧ c ≠ '#' := by
  intro c hc
  rw [List.head?_append_of_ne_nil _ (write_ne_nil k Form.places n)] at hc
  have hmem := List.mem_of_mem_head? hc
  refine ⟨isBlankChar_of_isSolid (isSolid_write k Form.places n) hmem, ?_⟩
  rintro rfl
  exact not_mem_write k n rfl (by decide) hmem

/-- A text that ends with a number is set off from blanks. -/
theorem last_append_write (k : LetterCase) (n : Int) (t : List Char) :
    ∀ c ∈ (t ++ write k Form.places n).getLast?, isBlankChar c = false := by
  intro c hc
  rw [List.getLast?_append_of_ne_nil t (write_ne_nil k Form.places n)] at hc
  exact isBlankChar_of_isSolid (isSolid_write k Form.places n) (List.mem_of_mem_getLast? hc)

theorem isCodes_number (f : Form) (c : Int) : IsCodes (f.number c) (.single c) where
  ne_nil := write_ne_nil f.firstCase Form.places c
  head := by
    have h := head_write_append f.firstCase c []
    rwa [List.append_nil] at h
  last := last_append_write f.firstCase c []
  noMark := not_mem_write f.firstCase c rfl (by decide)
  reads := readInterval_number f c

theorem isCodes_range (f : Form) (i : Interval) : IsCodes (f.range i) i where
  ne_nil := by
    rw [Form.range]
    exact List.append_ne_nil_of_right_ne_nil _ (List.cons_ne_nil _ _)
  head := by
    rw [Form.range, List.append_assoc]
    exact head_write_append f.firstCase i.first _
  last := by
    have h := last_append_write f.lastCase i.last
      (write f.firstCase Form.places i.first ++ f.beforeDots.val ++ '.' :: '.' :: f.afterDots.val)
    rwa [List.append_assoc] at h
  noMark := by
    have hspaces : ∀ s : Spaces, ';' ∉ s.val := fun s => s.not_mem (by decide) (by decide)
    have hnumber : ∀ k n, ';' ∉ write k Form.places n := fun k n =>
      not_mem_write k n rfl (by decide)
    simp [Form.range, hspaces, hnumber]
  reads := readInterval_range f i

/-- Trimming takes the blanks around the line, and leaves the code points where they are. -/
theorem trim_lineOf (f : Form) {i : Interval} (h : IsCodes codes i) (value : List Char) :
    trim (f.lineOf codes value) =
      codes ++ f.beforeMark.val ++ ';' :: trimEndBy isBlankChar (f.ending value) := by
  have hhead : ∀ c ∈ (codes ++ f.beforeMark.val ++ ';' :: f.ending value).head?,
      isBlankChar c = false := by
    intro c hc
    rw [List.append_assoc, List.head?_append_of_ne_nil _ h.ne_nil] at hc
    exact (h.head c hc).1
  rw [trim_eq, Form.lineOf, trimBy_of_all_append f.before.property, trimBy, dropWhile_of_head hhead,
    trimEndBy_append_cons (by decide)]

/-- A line is read by its parts, if it is neither blank nor a comment. -/
theorem read_of_trim (h : trim line = t) (hne : t ≠ []) (hremark : ∀ c ∈ t.head?, c ≠ '#')
    (hsplit : splitAt? ';' t = some (codes, rest)) {i : Interval}
    (hcodes : readInterval (trim codes) = .ok i) :
    read line = .ok (some ⟨i, valueOf rest⟩) := by
  unfold read
  split
  · next hblank => exact absurd (h.symm.trans hblank) hne
  · next hcomment =>
    have heq := h.symm.trans hcomment
    exact absurd rfl (hremark '#' (heq ▸ rfl))
  · rw [h, hsplit]
    simp only [hcodes]

/-- A line comes back whatever its form, if its code points and its value do. -/
theorem read_lineOf_of_isCodes (f : Form) {i : Interval} (h : IsCodes codes i) (hmark : '#' ∉ value)
    (hvalue : IsTrimmed isBlankChar value) :
    read (f.lineOf codes value) = .ok (some ⟨i, value⟩) := by
  have htrim : trim (codes ++ f.beforeMark.val) = codes := by
    have hcodes : IsTrimmed isBlankChar codes := ⟨fun c hc => (h.head c hc).1, h.last⟩
    rw [trim_eq, trimBy_append_of_all f.beforeMark.property, hcodes.trimBy_eq]
  have hsemicolon : ';' ∉ codes ++ f.beforeMark.val := by
    rw [List.mem_append, not_or]
    exact ⟨h.noMark, f.beforeMark.not_mem (by decide)⟩
  rw [read_of_trim (trim_lineOf f h value) (by simp) ?_ (splitAt?_append hsemicolon)
    (htrim.symm ▸ h.reads), valueOf_trimEndBy, valueOf_ending f hmark hvalue]
  intro c hc
  rw [List.append_assoc, List.head?_append_of_ne_nil _ h.ne_nil] at hc
  exact (h.head c hc).2

/-- **A data line is read as what it was written for.** The code points are any integers, and the value
is any text that has no number sign and does not begin or end with a blank. -/
theorem read_lineOf (f : Form) (i : Interval) (c : Int) (hmark : '#' ∉ value)
    (hvalue : IsTrimmed isBlankChar value) :
    read (f.lineOf (f.range i) value) = .ok (some ⟨i, value⟩) ∧
      read (f.lineOf (f.number c) value) = .ok (some ⟨.single c, value⟩) :=
  ⟨read_lineOf_of_isCodes f (isCodes_range f i) hmark hvalue,
    read_lineOf_of_isCodes f (isCodes_number f c) hmark hvalue⟩

/-- Blanks of many kinds, letters of either case, and a comment that looks like another line. -/
def scattered : Form where
  firstCase := .upper
  lastCase := .lower
  before := ⟨"\t ".toList, List.all_eq_true.mp (by decide)⟩
  beforeDots := ⟨" \t".toList, by decide⟩
  afterDots := ⟨"  ".toList, by decide⟩
  beforeMark := ⟨"\u3000".toList, List.all_eq_true.mp (by decide)⟩
  afterMark := ⟨"\u00a0".toList, List.all_eq_true.mp (by decide)⟩
  afterValue := ⟨" ".toList, List.all_eq_true.mp (by decide)⟩
  comment := some "0041..005A ; Lu #".toList
  after := ⟨"\r\n".toList, List.all_eq_true.mp (by decide)⟩

/-- The interval begins with a negative number, and the value holds a semicolon. -/
theorem read_scattered_line :
    '#' ∉ "Mn; no blank".toList ∧ IsTrimmed isBlankChar "Mn; no blank".toList ∧
      read "\t -00B \t..  1f64b\u3000;\u00a0Mn; no blank #0041..005A ; Lu #\r\n".toList =
        .ok (some ⟨⟨-0xB, 0x1F64B⟩, "Mn; no blank".toList⟩) := by
  have hmark : '#' ∉ "Mn; no blank".toList := by decide
  have hvalue : IsTrimmed isBlankChar "Mn; no blank".toList := by decide
  have hline : scattered.lineOf (scattered.range ⟨-0xB, 0x1F64B⟩) "Mn; no blank".toList =
      "\t -00B \t..  1f64b\u3000;\u00a0Mn; no blank #0041..005A ; Lu #\r\n".toList := by decide +kernel
  refine ⟨hmark, hvalue, ?_⟩
  rw [← hline]
  exact (read_lineOf scattered ⟨-0xB, 0x1F64B⟩ 0 hmark hvalue).1

end CellWidth.Generator.DataLine
