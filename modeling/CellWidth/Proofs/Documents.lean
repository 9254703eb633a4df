import CellWidth.Proofs.Grammar
import CellWidth.Settings.Preference

/-!
# Documents that are read, and texts that are not

What is read of a text follows from what it is written with: a document is read as its value where the
limit leaves room for its brackets, and one with more of them open than the limit is not read at all. A
text is put together of parts, and is written with the tokens of the parts.

* `isDocument_nestText`, `nestsBeyond_openArrays` — arrays one inside the other, with and without an end
* `Token.unsigned_of_long` — an integer of too many digits
* `Settings.ofBytes_document` — the document that states a preference is read as that preference
* `Settings.isDocument_lastMemberText` — an object in which the name of the preference comes last, and
  maybe not for the first time
-/

namespace CellWidth.Json

open Token

/-! ## Nested arrays -/

/-- Arrays one inside the other. -/
def nest : Nat → Value
  | 0 => .array []
  | n + 1 => .array [nest n]

/-- The text of so many and one more. -/
def nestText (n : Nat) : List Char :=
  List.replicate (n + 1) '[' ++ List.replicate (n + 1) ']'

theorem tokens_nest : ∀ n, (nest n).tokens =
    List.replicate (n + 1) Token.openArray ++ List.replicate (n + 1) .closeArray
  | 0 => by rw [nest, tokens_array]; rfl
  | n + 1 => by
    have hone : (nest (n + 1)).tokens = .openArray :: ((nest n).tokens ++ [.closeArray]) := by
      rw [nest, tokens_array, List.map_singleton, separate]
    rw [hone, tokens_nest n, List.append_assoc, ← List.replicate_succ', ← List.cons_append,
      ← List.replicate_succ]

theorem countP_openArrays (n : Nat) :
    (List.replicate n Token.openArray).countP Token.opens = n ∧
      (List.replicate n Token.openArray).countP Token.closes = 0 := by
  simp [List.countP_replicate, Token.opens, Token.closes]

theorem isDocument_nestText (n : Nat) : IsDocument (nestText n) (nest n) := by
  rw [IsDocument, tokens_nest]
  exact (writes_marks rfl (n + 1)).append (writes_marks rfl (n + 1))

/-- They are nested beyond each limit below their number, and not beyond it. -/
theorem not_nestsBeyond_nestText {limit n : Nat} (h : n < limit) :
    ¬ NestsBeyond limit (nestText n) := by
  refine (isDocument_nestText n).not_nestsBeyond ?_
  have hcloses : (List.replicate (n + 1) Token.closeArray).countP Token.opens = 0 := by
    simp [List.countP_replicate, Token.opens]
  rw [tokens_nest, List.countP_append, (countP_openArrays (n + 1)).1, hcloses]
  exact h

/-- Arrays that are opened pass the limit, whatever comes after them. -/
theorem nestsBeyond_openArrays {limit n : Nat} (h : limit ≤ n) (rest : List Char) :
    NestsBeyond limit (List.replicate (n + 1) '[' ++ rest) := by
  obtain ⟨hopens, hcloses⟩ := countP_openArrays (n + 1)
  refine ⟨_, rest, List.replicate (n + 1) .openArray, rfl, writes_marks rfl (n + 1),
    ⟨.openArray, ?_, rfl⟩, ⟨nest n, ?_⟩, ?_⟩
  · rw [List.replicate_succ', List.getLast?_concat]
    rfl
  · rw [tokens_nest]
    exact List.prefix_append _ _
  · rw [hopens, hcloses]
    omega

/-! ## Scalars -/

/-- The text of a scalar is a document. -/
theorem isDocument_of_spelled {v : Value} {form : List Char} (h : SpellsScalar v form) :
    IsDocument form v := by
  rw [IsDocument, tokens_of_isScalar h.isScalar]
  exact writes_scalar h

/-- An integer of too many digits is not read. -/
theorem Token.unsigned_of_long {negative : Bool} {c : Char} {ds : List Char}
    (hzero : (c == '0') = false) (hc : isDigit c = true) (hds : ∀ d ∈ ds, isDigit d = true)
    (hlong : maxDigits ≤ ds.length) (rest : List Char) :
    unsigned negative c (ds ++ ',' :: rest) = none := by
  have hcomma : NoDigit (',' :: rest) := fun c hc => Option.some.inj hc ▸ rfl
  obtain ⟨htake, hdrop⟩ := takeWhile_append_of_noDigit hds hcomma
  have hnumber : numberFrom negative (c :: ds) (',' :: rest) = none :=
    if_pos (Nat.lt_succ_of_le hlong)
  rw [unsigned, hzero, hc, htake, hdrop, hnumber]
  rfl

/-! ## The document of a preference -/

theorem spellsText_memberName : SpellsText Settings.memberName ['c', 'j', 'k'] :=
  spellsText_plain rfl

theorem spellsWord_bool (b : Bool) :
    SpellsWord (.bool b) (if b then "true" else "false").toList := by
  cases b with
  | true => exact .true
  | false => exact .false

/-- **The document that states a preference is an object with this one member.** -/
theorem isDocument_document (b : Bool) :
    IsDocument (Settings.document b) (.object [(Settings.memberName, .bool b)]) := by
  have hspace : Writes [' '] [] := .space rfl .nil
  have hopen : Writes ['\x7b', '\n', ' ', ' '] [.openObject] :=
    .mark rfl (.space rfl (.space rfl hspace))
  have hname : Writes ['"', 'c', 'j', 'k', '"'] [.scalar (.string Settings.memberName)] :=
    writes_scalar (.string spellsText_memberName)
  have hcolon : Writes [':', ' '] [.colon] := .mark rfl hspace
  have hvalue : Writes (if b then "true" else "false").toList [.scalar (.bool b)] :=
    writes_scalar (.word (spellsWord_bool b))
  have hclose : Writes ['\n', '\x7d'] [.closeObject] := .space rfl (writes_mark rfl)
  exact hopen.append (hname.append (hcolon.append (hvalue.append hclose)))

/-- It is read wherever an object can be opened at all. -/
theorem parse_document {limit : Nat} (h : 0 < limit) (b : Bool) :
    parse limit (Settings.document b) = .ok (.object [(Settings.memberName, .bool b)]) := by
  have hdocument := isDocument_document b
  exact (parse_eq_ok_iff (hdocument.not_nestsBeyond h)).mpr hdocument

end CellWidth.Json

namespace CellWidth.Settings

open CellWidth.Text
open CellWidth.Json.Token

variable {limit n : Nat} {earlier form value : List Char} {word : Json.Text} {v : Json.Value}
  {members : List (Json.Text × Json.Value)}

/-- **Written down and read again, a preference is the same.** -/
theorem ofBytes_document (h : 0 < limit) (b : Bool) :
    ofBytes limit (Utf8.encode (document b)) = .preference b := by
  rw [ofBytes, Utf8.decode_encode]
  simp only [Json.parse_document h]
  rfl

/-! ## Objects with the name at the end -/

/-- The name of the member and the colon after it. -/
def nameText : List Char :=
  ['"', 'c', 'j', 'k', '"', ':', ' ']

/-- The text of an object: some text for the members before the last, and the last, whose value is a
string spelled so. -/
def lastMemberText (earlier form : List Char) : List Char :=
  '\x7b' :: (earlier ++ (nameText ++ ('"' :: (form ++ ['"'])) ++ ['\x7d']))

/-- An earlier member of the same name. -/
def earlierMember (value : List Char) : List Char :=
  nameText ++ (value ++ [',', ' '])

theorem writes_nameText : Writes nameText [.scalar (.string memberName), .colon] :=
  (writes_scalar (.string Json.spellsText_memberName)).append (.mark rfl (.space rfl .nil))

theorem tokens_lastMember (members : List (Json.Text × Json.Value)) (word : Json.Text) :
    (Json.Value.object (members ++ [(memberName, .string word)])).tokens =
      [.openObject] ++ (Json.continued (members.map Json.namedTokens) ++
        (([.scalar (.string memberName), .colon] ++ [.scalar (.string word)]) ++
          [.closeObject])) := by
  rw [Json.tokens_object, List.map_append, List.map_singleton, Json.separate_concat,
    List.append_assoc]
  rfl

/-- The text is written with the tokens of the object, if what comes before is the text of members. -/
theorem isDocument_lastMemberText
    (hearlier : Writes earlier (Json.continued (members.map Json.namedTokens)))
    (h : SpellsText word form) :
    Json.IsDocument (lastMemberText earlier form)
      (.object (members ++ [(memberName, .string word)])) := by
  have hopen : Writes ['\x7b'] [.openObject] := writes_mark rfl
  have hclose : Writes ['\x7d'] [.closeObject] := writes_mark rfl
  have hlast := (writes_nameText.append (writes_scalar (.string h))).append hclose
  rw [Json.IsDocument, tokens_lastMember]
  exact hopen.append (hearlier.append hlast)

/-- One bracket more is opened than before the last member. -/
theorem not_nestsBeyond_lastMemberText
    (hearlier : Writes earlier (Json.continued (members.map Json.namedTokens)))
    (h : SpellsText word form)
    (hroom : (Json.continued (members.map Json.namedTokens)).countP opens < limit) :
    ¬ Json.NestsBeyond limit (lastMemberText earlier form) := by
  refine (isDocument_lastMemberText hearlier h).not_nestsBeyond ?_
  have hfirst : [openObject].countP opens = 1 := rfl
  have hlast : ([scalar (.string memberName), colon] ++ [scalar (.string word)] ++
      [closeObject]).countP opens = 0 := rfl
  rw [tokens_lastMember, List.countP_append, List.countP_append, hfirst, hlast]
  omega

theorem continued_single (v : Json.Value) :
    Json.continued ([(memberName, v)].map Json.namedTokens) =
      [.scalar (.string memberName), .colon] ++ (v.tokens ++ [.comma]) := by
  simp [Json.continued, Json.namedTokens]

/-- The name can come before, with another value. -/
theorem writes_earlierMember (h : Json.IsDocument value v) :
    Writes (earlierMember value) (Json.continued ([(memberName, v)].map Json.namedTokens)) := by
  have hcomma : Writes [',', ' '] [.comma] := .mark rfl (.space rfl .nil)
  rw [continued_single]
  exact writes_nameText.append (h.append hcomma)

/-! ## The same beyond the limits -/

/-- The brackets of the first member are at the beginning of the text. -/
theorem nestsBeyond_nestText (hn : limit ≤ n) (form : List Char) :
    Json.NestsBeyond limit (lastMemberText (earlierMember (Json.nestText n)) form) := by
  obtain ⟨hopens, hcloses⟩ := Json.countP_openArrays (n + 1)
  have hbegun : Writes ('\x7b' :: (nameText ++ List.replicate (n + 1) '['))
      (.openObject :: ([.scalar (.string memberName), .colon] ++
        List.replicate (n + 1) .openArray)) :=
    .mark rfl (writes_nameText.append (writes_marks rfl (n + 1)))
  refine ⟨_, List.replicate (n + 1) ']' ++ ([',', ' '] ++
      (nameText ++ ('"' :: (form ++ ['"'])) ++ ['\x7d'])), _, ?_, hbegun, ⟨.openArray, ?_, rfl⟩, ?_, ?_⟩
  · simp only [lastMemberText, earlierMember, Json.nestText, List.append_assoc, List.cons_append]
  · rw [List.replicate_succ', ← List.append_assoc, ← List.cons_append, List.getLast?_concat]
    rfl
  · -- Whatever stands in the last member, the text begins like one with an empty text there.
    refine ⟨.object ([(memberName, Json.nest n)] ++ [(memberName, .string [])]), ?_⟩
    rw [tokens_lastMember, continued_single, Json.tokens_nest]
    simp [List.cons_prefix_cons, List.append_assoc]
  · have hfirst : [.openObject, .scalar (.string memberName), .colon].countP opens = 1 := rfl
    have hfirst' : [.openObject, .scalar (.string memberName), .colon].countP closes = 0 := rfl
    rw [← List.cons_append, List.countP_append, List.countP_append, hopens, hcloses, hfirst, hfirst']
    omega

/-- The text of an integer with so many digits more than one. -/
def longText (n : Nat) : List Char :=
  '1' :: List.replicate n '1'

/-- The cutting ends at a long integer. -/
theorem cut_longText (hn : maxDigits ≤ n) (form : List Char) :
    cut (lastMemberText (earlierMember (longText n)) form) =
      ([.openObject, .scalar (.string memberName), .colon], false) := by
  have hbegun : Writes ('\x7b' :: nameText) [.openObject, .scalar (.string memberName), .colon] :=
    .mark rfl writes_nameText
  have hapart : Apart [.openObject, .scalar (.string memberName), .colon] :=
    .cons id (apart_named _ .nil)
  have htext : lastMemberText (earlierMember (longText n)) form =
      ('\x7b' :: nameText) ++ '1' :: (List.replicate n '1' ++ ',' ::
        (' ' :: (nameText ++ ('"' :: (form ++ ['"'])) ++ ['\x7d']))) := by
    simp only [lastMemberText, earlierMember, longText, List.append_assoc, List.cons_append,
      List.nil_append]
  have hones : ∀ c ∈ List.replicate n '1', isDigit c = true := by
    intro c hc
    rw [List.eq_of_mem_replicate hc]
    rfl
  have hlong : maxDigits ≤ (List.replicate n '1').length := by
    rwa [List.length_replicate]
  rw [htext]
  refine cut_of_none hbegun hapart (fun s hs => ?_) rfl rfl (unsigned_of_long rfl rfl hones hlong _)
  obtain rfl := Option.some.inj hs
  exact id

/-- A long integer before the last member spoils the document. -/
theorem ofBytes_longText (hlimit : 0 < limit) (hn : maxDigits ≤ n) (form : List Char) :
    ofBytes limit (Utf8.encode (lastMemberText (earlierMember (longText n)) form)) =
      .failure .notDocument := by
  have hparse : Json.parse limit (lastMemberText (earlierMember (longText n)) form) =
      .error .malformed := by
    obtain ⟨k, rfl⟩ := Nat.exists_eq_succ_of_ne_zero (Nat.pos_iff_ne_zero.mp hlimit)
    rw [Json.parse, cut_longText hn]
    rfl
  rw [ofBytes, Utf8.decode_encode]
  simp only [hparse]

end CellWidth.Settings
