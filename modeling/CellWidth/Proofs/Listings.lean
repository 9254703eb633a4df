import CellWidth.Generator.Listing
import CellWidth.Proofs.DataLines
import CellWidth.Text.Lines

/-!
# Reading listings back

A listing has a line for its heading, one for each interval and one for the closing bracket, and the line
of an interval tells it: the two numbers between its brackets are its ends. So the listing of a table
says which intervals the table has.

That the lines can be told from each other needs that no name holds a line feed, which is true of all
names there are. Where an end is no code point there is no listing, and the first such end is the one
that is complained of.

* `Unicode.label_of_isCodePoint` — a code point has a label, in one line
* `Listing.readRow?` — reads the line of an interval
* `Listing.row_of_isCodePoint` — it gives the interval back
* `Listing.rows_of_find?` — the first end without a label ends it all
* `Listing.render_read_back` — whole listings
-/

namespace CellWidth

open Text

/-! ## Lines -/

namespace Text.Lines

/-- The text is part of one line. -/
def IsInLine (s : String) : Prop :=
  '\n' ∉ s.toList

instance (s : String) : Decidable (IsInLine s) :=
  inferInstanceAs (Decidable ('\n' ∉ s.toList))

theorem IsInLine.append {s t : String} (hs : IsInLine s) (ht : IsInLine t) : IsInLine (s ++ t) := by
  rw [IsInLine, String.toList_append, List.mem_append, not_or]
  exact ⟨hs, ht⟩

/-- A text is divided at its first line feed. -/
theorem atFeeds_append (rest : List Char) : ∀ {line : List Char}, '\n' ∉ line →
    atFeeds (line ++ '\n' :: rest) = line :: atFeeds rest
  | [], _ => by rw [List.nil_append, atFeeds, if_pos rfl]
  | c :: line, h => by
    have hline := List.not_mem_of_not_mem_cons h
    rw [List.cons_append, atFeeds, if_neg (List.ne_of_not_mem_cons h).symm, atFeeds_append rest hline]

end Text.Lines

/-! ## Labels -/

namespace Unicode

open Text.Lines

variable {c : Int} {n : Nat} {s : String}

/-- The integer is in the code space. -/
def IsCodePoint (c : Int) : Prop :=
  0 ≤ c ∧ c ≤ 0x10FFFF

instance (c : Int) : Decidable (IsCodePoint c) :=
  inferInstanceAs (Decidable (0 ≤ c ∧ c ≤ 0x10FFFF))

/-- The fault of an integer that is no code point: it is a signed number of 32 bits, or not even that. -/
def faultOf (c : Int) : LabelError :=
  if -0x80000000 ≤ c ∧ c ≤ 0x7FFFFFFF then .outsideCodeSpace else .outsideWord

theorem isInLine_write (k : Hexadecimal.LetterCase) (c : Int) :
    IsInLine (String.ofList (Hexadecimal.write k 4 c)) := by
  rw [IsInLine, String.toList_ofList]
  exact Generator.DataLine.not_mem_write k c rfl (by decide)

/-- The names that are made of a number have heads of letters. -/
theorem isInLine_numberedHead (h : numberedHead? n = some s) : IsInLine s := by
  obtain ⟨b, hb, rfl⟩ := Option.map_eq_some_iff.mp h
  have hall : ∀ b ∈ numbered, IsInLine b.2.2 := by decide
  exact hall b (List.mem_of_find?_eq_some hb)

theorem isInLine_getD {l : List String} (h : ∀ s ∈ l, IsInLine s) (i : Nat) :
    IsInLine (l.getD i "") := by
  rw [List.getD_eq_getElem?_getD]
  cases hi : l[i]? with
  | none => exact List.not_mem_nil
  | some s => exact h s (List.mem_of_getElem? hi)

/-- The letters of Hangul are written with letters. -/
theorem isInLine_romanised (i : Nat) : IsInLine (romanised i) := by
  have hinitials : ∀ s ∈ initials, IsInLine s := by decide
  have hvowels : ∀ s ∈ vowels, IsInLine s := by decide
  have hfinals : ∀ s ∈ finals, IsInLine s := by decide
  exact ((isInLine_getD hinitials _).append (isInLine_getD hvowels _)).append
    (isInLine_getD hfinals _)

/-- A name from the table is made of the characters of names, and a line feed is none of them. -/
theorem isInLine_tableName (h : tableName? n = some s) : IsInLine s := by
  unfold tableName? at h
  split at h
  · cases h
  · obtain ⟨name, hname, rfl⟩ := Option.map_eq_some_iff.mp h
    rw [IsInLine, String.toList_ofList]
    intro hfeed
    exact absurd (NameRun.isNameChar_of_mem_name hname hfeed) (by decide)

/-- **No name holds a line feed**, in whichever of the three ways it is made. -/
theorem isInLine_name (h : name? n = some s) : IsInLine s := by
  unfold name? at h
  split at h
  · next head hhead =>
    rw [← Option.some.inj h]
    exact (isInLine_numberedHead hhead).append (isInLine_write .upper n)
  · split at h
    · rw [← Option.some.inj h]
      have hword : IsInLine "HANGUL SYLLABLE " := by decide
      exact hword.append (isInLine_romanised _)
    · exact isInLine_tableName h

/-- **A code point has a label, and no label holds a line feed.** -/
theorem label_of_isCodePoint (h : IsCodePoint c) : ∃ s, label c = .ok s ∧ IsInLine s := by
  rw [IsCodePoint] at h
  refine ⟨_, by rw [label, if_neg (by omega), if_neg (by omega)], ?_⟩
  cases hname : name? c.toNat with
  | some s => exact isInLine_name hname
  | none =>
    have hmark : IsInLine "U+" := by decide
    exact hmark.append (isInLine_write .upper c)

/-- Where there is no code point there is no label, and the fault is one of two. -/
theorem label_of_not_isCodePoint (h : ¬IsCodePoint c) : label c = .error (faultOf c) := by
  rw [IsCodePoint] at h
  rw [label, faultOf]
  by_cases hword : -0x80000000 ≤ c ∧ c ≤ 0x7FFFFFFF
  · rw [if_neg (by omega), if_pos (by omega), if_pos hword]
  · rw [if_pos (by omega), if_neg hword]

end Unicode

/-! ## Listings -/

namespace Generator.Listing

open Unicode Text.Lines

variable {i : Interval} {is : List Interval} {c : Int} {name first last : String}

/-- Lines that hold no line feed are the lines of the text that they make. -/
theorem atFeeds_joinLines : ∀ {lines : List String}, (∀ l ∈ lines, IsInLine l) →
    atFeeds (joinLines lines).toList = lines.map String.toList
  | [], _ => rfl
  | l :: lines, h => by
    obtain ⟨hl, hlines⟩ := List.forall_mem_cons.mp h
    have hcons : (joinLines (l :: lines)).toList = l.toList ++ '\n' :: (joinLines lines).toList := by
      rw [joinLines, List.map_cons, String.join_cons, String.toList_append, String.toList_append,
        List.append_assoc]
      rfl
    rw [hcons, atFeeds_append _ hl, atFeeds_joinLines hlines]
    rfl

/-! ### The line of an interval -/

/-- What stands before the numbers in the line of an interval. -/
def rowWord : List Char :=
  "    Interval".toList

/-- Reads two numbers with a comma between them. -/
def readPair? (t : List Char) : Option Interval :=
  match DataLine.splitAt? ',' t with
  | none => none
  | some (first, last) =>
    match Hexadecimal.read? first, Hexadecimal.read? last with
    | some a, some b => some ⟨a, b⟩
    | _, _ => none

/-- Reads the line of an interval: the numbers between its brackets. What follows them is of no
concern. -/
def readRow? (line : List Char) : Option Interval :=
  match DataLine.splitAt? '(' line with
  | none => none
  | some (word, rest) =>
    if word = rowWord then
      match DataLine.splitAt? ')' rest with
      | none => none
      | some (pair, _) => readPair? pair
    else none

/-- A number is written with the mark and at least four places. -/
theorem toList_number (c : Int) :
    (number c).toList = '0' :: 'x' :: Hexadecimal.write .lower 4 c := by
  rw [number, String.toList_append, String.toList_ofList (l := Hexadecimal.write .lower 4 c)]
  rfl

/-- A character that is no digit, no sign and no letter of the mark is not in a number. -/
theorem not_mem_number {mark : Char} (hdigit : Hexadecimal.digitValue mark = none)
    (hminus : mark ≠ '-') (hx : mark ≠ 'x') (c : Int) : mark ∉ (number c).toList := by
  rw [toList_number, List.mem_cons, List.mem_cons, not_or, not_or]
  refine ⟨?_, hx, DataLine.not_mem_write .lower c hdigit hminus⟩
  rintro rfl
  cases hdigit

/-- The two numbers in the line of an interval, with what stands between them. -/
def pair (i : Interval) : List Char :=
  (number i.first).toList ++ ',' :: ' ' :: (number i.last).toList

/-- The two numbers are read back. -/
theorem readPair?_pair (hfirst : 0 ≤ i.first) (hlast : 0 ≤ i.last) : readPair? (pair i) = some i := by
  have hcomma : ',' ∉ (number i.first).toList := not_mem_number rfl (by decide) (by decide) i.first
  have hreadFirst : Hexadecimal.read? (number i.first).toList = some i.first := by
    rw [toList_number]
    exact Hexadecimal.read?_mark_write .lower 4 hfirst (List.forall_mem_nil _)
  have hspacing : Hexadecimal.IsSpacing [' '] := by decide
  have hreadLast : Hexadecimal.read? (' ' :: (number i.last).toList) = some i.last := by
    rw [toList_number]
    exact Hexadecimal.read?_mark_write .lower 4 hlast hspacing
  rw [readPair?, pair, DataLine.splitAt?_append hcomma]
  simp only [hreadFirst, hreadLast]

/-- What is no part of a number is there only as a comma or a space. -/
theorem not_mem_pair {mark : Char} (hdigit : Hexadecimal.digitValue mark = none)
    (hminus : mark ≠ '-') (hx : mark ≠ 'x') (hcomma : mark ≠ ',') (hspace : mark ≠ ' ')
    (i : Interval) : mark ∉ pair i := by
  simp only [pair, List.mem_append, List.mem_cons, not_mem_number hdigit hminus hx, hcomma, hspace,
    or_self, not_false_eq_true]

/-- The line of an interval, with the labels of its ends. -/
def rowWith (i : Interval) (first last : String) : String :=
  "    Interval(" ++ number i.first ++ ", " ++ number i.last ++ "),  # " ++ first ++ " to " ++ last

/-- With the labels of its ends an interval has a line. -/
theorem row_eq (hfirst : label i.first = .ok first) (hlast : label i.last = .ok last) :
    row i = .ok (rowWith i first last) := by
  rw [row, hfirst]
  simp only [hlast]
  rfl

/-- What stands after the numbers in the line of an interval. -/
def remark (first last : String) : String :=
  ",  # " ++ first ++ " to " ++ last

theorem toList_rowWith (i : Interval) (first last : String) :
    (rowWith i first last).toList = rowWord ++ '(' :: (pair i ++ ')' :: (remark first last).toList) := by
  have hopen : "    Interval(".toList = rowWord ++ ['('] := rfl
  have hbetween : ", ".toList = [',', ' '] := rfl
  have hclose : "),  # ".toList = ')' :: ",  # ".toList := rfl
  unfold rowWith
  simp only [remark, pair, String.toList_append, hopen, hbetween, hclose, List.append_assoc,
    List.cons_append, List.nil_append]

theorem isInLine_remark (hfirst : IsInLine first) (hlast : IsInLine last) :
    IsInLine (remark first last) := by
  have hcomment : IsInLine ",  # " := by decide
  have hto : IsInLine " to " := by decide
  exact ((hcomment.append hfirst).append hto).append hlast

/-- **The line of an interval gives it back**, whatever the names of its ends are. -/
theorem row_of_isCodePoint (hfirst : IsCodePoint i.first) (hlast : IsCodePoint i.last) :
    ∃ line, row i = .ok line ∧ IsInLine line ∧ readRow? line.toList = some i := by
  obtain ⟨first, hlabelFirst, hinFirst⟩ := label_of_isCodePoint hfirst
  obtain ⟨last, hlabelLast, hinLast⟩ := label_of_isCodePoint hlast
  refine ⟨_, row_eq hlabelFirst hlabelLast, ?_, ?_⟩
  · have hpair : '\n' ∉ pair i :=
      not_mem_pair rfl (by decide) (by decide) (by decide) (by decide) i
    have hremark : '\n' ∉ (remark first last).toList := isInLine_remark hinFirst hinLast
    rw [IsInLine, toList_rowWith]
    simp only [List.mem_append, List.mem_cons, hpair, hremark, or_false, false_or, not_or]
    decide
  · have hbracket : ')' ∉ pair i :=
      not_mem_pair rfl (by decide) (by decide) (by decide) (by decide) i
    rw [toList_rowWith, readRow?, DataLine.splitAt?_append (by decide)]
    simp only [↓reduceIte, DataLine.splitAt?_append hbracket, readPair?_pair hfirst.1 hlast.1]

/-- The label of the first end is wanted first. -/
theorem row_of_first (h : ¬IsCodePoint i.first) : row i = .error (faultOf i.first) := by
  rw [row, label_of_not_isCodePoint h]

/-- A fault of the last end is found where the first has none. -/
theorem row_of_last (hfirst : IsCodePoint i.first) (h : ¬IsCodePoint i.last) :
    row i = .error (faultOf i.last) := by
  obtain ⟨first, hlabel, -⟩ := label_of_isCodePoint hfirst
  rw [row, hlabel]
  simp only [label_of_not_isCodePoint h]

/-! ### The lines of intervals -/

/-- The ends of intervals, in the order in which their labels are wanted. -/
def endsOf (is : List Interval) : List Int :=
  is.flatMap fun i => [i.first, i.last]

theorem endsOf_cons (i : Interval) (is : List Interval) :
    endsOf (i :: is) = i.first :: i.last :: endsOf is :=
  rfl

/-- **Where all ends are code points, there is a line for each interval**, and it gives the interval
back. -/
theorem rows_of_isCodePoint : ∀ {is : List Interval}, (∀ c ∈ endsOf is, IsCodePoint c) →
    ∃ lines, rows is = .ok lines ∧ (∀ l ∈ lines, IsInLine l) ∧
      lines.map (fun l => readRow? l.toList) = is.map some
  | [], _ => ⟨[], rfl, List.forall_mem_nil _, rfl⟩
  | i :: is, h => by
    rw [endsOf_cons, List.forall_mem_cons, List.forall_mem_cons] at h
    obtain ⟨hfirst, hlast, his⟩ := h
    obtain ⟨line, hrow, hin, hread⟩ := row_of_isCodePoint hfirst hlast
    obtain ⟨lines, hrows, hinLines, hreadLines⟩ := rows_of_isCodePoint his
    refine ⟨line :: lines, ?_, List.forall_mem_cons.mpr ⟨hin, hinLines⟩, ?_⟩
    · rw [rows, hrow, hrows]
    · rw [List.map_cons, List.map_cons, hread, hreadLines]

/-- **The first end that is no code point ends it all.** -/
theorem rows_of_find? : ∀ {is : List Interval},
    (endsOf is).find? (fun c => !decide (IsCodePoint c)) = some c → rows is = .error (faultOf c)
  | [], h => by cases h
  | i :: is, h => by
    rw [endsOf_cons] at h
    by_cases hfirst : IsCodePoint i.first
    · rw [List.find?_cons_of_neg (by simpa using hfirst)] at h
      by_cases hlast : IsCodePoint i.last
      · rw [List.find?_cons_of_neg (by simpa using hlast)] at h
        obtain ⟨line, hrow, -⟩ := row_of_isCodePoint hfirst hlast
        rw [rows, hrow, rows_of_find? h]
      · rw [List.find?_cons_of_pos (by simpa using hlast)] at h
        rw [rows, row_of_last hfirst hlast, ← Option.some.inj h]
    · rw [List.find?_cons_of_pos (by simpa using hfirst)] at h
      rw [rows, row_of_first hfirst, ← Option.some.inj h]

/-! ### Whole listings -/

theorem isInLine_heading (h : IsInLine name) : IsInLine (heading name) := by
  have hrest : IsInLine ": Tuple[Interval, ...] = (" := by decide
  exact h.append hrest

/-- **A listing has a line for its heading, one for each interval and one for the closing bracket**, and
the line of an interval gives it back. -/
theorem render_of_isCodePoint (hname : IsInLine name) (h : ∀ c ∈ endsOf is, IsCodePoint c) :
    ∃ text lines, render name is = .ok text ∧
      text = joinLines (heading name :: lines ++ [")"]) ∧
      atFeeds text.toList = (heading name :: lines ++ [")"]).map String.toList ∧
      lines.map (fun l => readRow? l.toList) = is.map some := by
  obtain ⟨lines, hrows, hin, hread⟩ := rows_of_isCodePoint h
  have hbracket : IsInLine ")" := by decide
  have hall : ∀ l ∈ heading name :: lines ++ [")"], IsInLine l := by
    rw [List.forall_mem_append, List.forall_mem_cons, List.forall_mem_singleton]
    exact ⟨⟨isInLine_heading hname, hin⟩, hbracket⟩
  exact ⟨_, lines, by rw [render, hrows], rfl, atFeeds_joinLines hall, hread⟩

/-- Two listings are the same only if their tables are. -/
theorem eq_of_render_eq {js : List Interval} (hname : IsInLine name)
    (his : ∀ c ∈ endsOf is, IsCodePoint c) (hjs : ∀ c ∈ endsOf js, IsCodePoint c)
    (h : render name is = render name js) : is = js := by
  obtain ⟨text, lines, hrender, -, hlines, hread⟩ := render_of_isCodePoint hname his
  obtain ⟨text', lines', hrender', -, hlines', hread'⟩ := render_of_isCodePoint hname hjs
  obtain rfl : text = text' := Except.ok.inj (hrender.symm.trans (h.trans hrender'))
  -- The same text has the same lines, and the lines have the intervals.
  have hsame : heading name :: lines ++ [")"] = heading name :: lines' ++ [")"] :=
    List.map_injective_iff.mpr (fun _ _ => String.toList_inj.mp) (hlines.symm.trans hlines')
  obtain rfl : lines = lines' := (List.cons.inj (List.append_cancel_right hsame)).2
  exact List.map_injective_iff.mpr (fun _ _ => Option.some.inj) (hread.symm.trans hread')

/-- Where an end is no code point there is no listing, and the first such end is complained of. -/
theorem render_of_not_isCodePoint (name : String) (h : ∃ c ∈ endsOf is, ¬IsCodePoint c) :
    ∃ before c after, endsOf is = before ++ c :: after ∧ (∀ b ∈ before, IsCodePoint b) ∧
      ¬IsCodePoint c ∧ render name is = .error (faultOf c) := by
  cases hfind : (endsOf is).find? (fun c => !decide (IsCodePoint c)) with
  | none =>
    obtain ⟨c, hc, hnot⟩ := h
    have hall := List.find?_eq_none.mp hfind c hc
    exact absurd hnot (by simpa using hall)
  | some c =>
    obtain ⟨hc, before, after, hends, hbefore⟩ := List.find?_eq_some_iff_append.mp hfind
    refine ⟨before, c, after, hends, fun b hb => ?_, by simpa using hc, ?_⟩
    · simpa using hbefore b hb
    · rw [render, rows_of_find? hfind]

/-- **Listings are read back.** Under a name in one line, a table whose ends are code points has a
listing: a line for the heading, one for each interval, which gives the interval back, and one for the
closing bracket. So no other such table has the same listing. Under any name, a table in which an end is
no code point has none, and the fault is that of the first such end. -/
theorem render_read_back (name : String) (is : List Interval) :
    (IsInLine name → (∀ c ∈ endsOf is, IsCodePoint c) →
      (∃ text lines, render name is = .ok text ∧
        text = joinLines (heading name :: lines ++ [")"]) ∧
        atFeeds text.toList = (heading name :: lines ++ [")"]).map String.toList ∧
        lines.map (fun l => readRow? l.toList) = is.map some) ∧
      ∀ js, (∀ c ∈ endsOf js, IsCodePoint c) → render name is = render name js → is = js) ∧
    ((∃ c ∈ endsOf is, ¬IsCodePoint c) →
      ∃ before c after, endsOf is = before ++ c :: after ∧ (∀ b ∈ before, IsCodePoint b) ∧
        ¬IsCodePoint c ∧ render name is = .error (faultOf c)) :=
  ⟨fun hname his => ⟨render_of_isCodePoint hname his, fun _ hjs => eq_of_render_eq hname his hjs⟩,
    render_of_not_isCodePoint name⟩

/-- A table that is read back from its listing, another that has another listing, and one that has
none. -/
theorem render_syllables_tiles_faulty :
    IsInLine "WIDE_TABLE" ∧
      (∃ (text : String) (lines : List String),
        render "WIDE_TABLE" [⟨0xAC00, 0xD7A3⟩, .single 0x1F004] = .ok text ∧
          lines.map (fun l => readRow? l.toList) =
            [⟨0xAC00, 0xD7A3⟩, Interval.single 0x1F004].map some) ∧
      render "WIDE_TABLE" [⟨0xAC00, 0xD7A3⟩, .single 0x1F004] ≠
        render "WIDE_TABLE" [⟨0xAC00, 0xD7A3⟩] ∧
      ∃ c, ¬IsCodePoint c ∧ render "WIDE_TABLE" [⟨0x20, 0x110000⟩, ⟨-1, 0x20⟩] = .error (faultOf c) := by
  have hname : IsInLine "WIDE_TABLE" := by decide
  obtain ⟨⟨text, lines, hrender, -, -, hread⟩, hinj⟩ :=
    (render_read_back "WIDE_TABLE" [⟨0xAC00, 0xD7A3⟩, .single 0x1F004]).1 hname (by decide)
  obtain ⟨-, c, -, -, -, hc, hfault⟩ :=
    (render_read_back "WIDE_TABLE" [⟨0x20, 0x110000⟩, ⟨-1, 0x20⟩]).2 (by decide)
  refine ⟨hname, ⟨text, lines, hrender, hread⟩, fun hsame => ?_, c, hc, hfault⟩
  exact absurd (hinj [⟨0xAC00, 0xD7A3⟩] (by decide) hsame) (by decide)

end Generator.Listing

end CellWidth
