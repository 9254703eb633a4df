import CellWidth.Proofs.Decoding
import CellWidth.Proofs.Documents
import CellWidth.Proofs.Resolution

/-!
# What a preference file states

A file turns the legacy mode on if it is the text of an object whose last member `cjk` is a word for on
(`Entry.StatesOn`). Other files leave it off, and some of them are at fault (`Entry.IsFaulty`): nobody
would write them to say so. A missing file is not at fault, nor is a document that counts as false, nor
an object without the member; a member that is null is.

The reading goes through bytes, text, document and member. At each of the four it can end, and what it
gives is described in the same way (`Reading.Decides`): either there is no fault and a preference, or
there is a fault and the mode is not turned on.

* `Settings.decides_ofDocument`, `Settings.decides_ofBytes`, `Settings.decides_ofEntry` — the stages
* `Settings.load_decides` — the preference, and one error in the log where the file is at fault
-/

namespace CellWidth.Json

variable {name : Text} {v : Value} {members : List (Text × Value)}

/-- The last of the members with a name has this value. -/
def IsLast (name : Text) (v : Value) (members : List (Text × Value)) : Prop :=
  ∃ before after, members = before ++ (name, v) :: after ∧ ∀ m ∈ after, m.1 ≠ name

theorem member?_eq_some_iff : member? name members = some v ↔ IsLast name v members := by
  rw [member?, List.lookup_eq_some_iff]
  constructor
  · rintro ⟨after, before, hmembers, hafter⟩
    refine ⟨before.reverse, after.reverse, ?_, fun m hm => ?_⟩
    · rw [← List.reverse_reverse members, hmembers]
      simp
    · have hne := hafter m (List.mem_reverse.mp hm)
      exact fun heq => by simp [heq] at hne
  · rintro ⟨before, after, rfl, hafter⟩
    refine ⟨after.reverse, before.reverse, by simp, fun m hm => ?_⟩
    have hne := hafter m (List.mem_reverse.mp hm)
    simpa using Ne.symm hne

/-- What is at the end of all is the last. -/
theorem isLast_concat (members : List (Text × Value)) (name : Text) (v : Value) :
    IsLast name v (members ++ [(name, v)]) :=
  ⟨members, [], rfl, nofun⟩

/-- A name has one last member. -/
theorem IsLast.unique {w : Value} (hv : IsLast name v members) (hw : IsLast name w members) :
    v = w :=
  Option.some.inj ((member?_eq_some_iff.mpr hv).symm.trans (member?_eq_some_iff.mpr hw))

end CellWidth.Json

namespace CellWidth.Settings

open CellWidth.Text

/-! ## Descriptions -/

/-- The document turns the mode on: its last member with the name is true, or a word for on. -/
def DocumentStatesOn (v : Json.Value) : Prop :=
  ∃ members, v = .object members ∧
    (Json.IsLast memberName (.bool true) members ∨
      ∃ word, Json.IsLast memberName (.string word) members ∧ readWord? word = some true)

/-- The document is at fault: it is no object, though it counts as true, or its last member with the name
is neither a boolean nor a word. -/
inductive DocumentIsFaulty : Json.Value → Prop
  | notObject {v : Json.Value} (htrue : v.isTruthy = true) (h : ∀ members, v ≠ .object members) :
    DocumentIsFaulty v
  | notASwitch {members : List (Json.Text × Json.Value)} {w : Json.Value}
    (hlast : Json.IsLast memberName w members) (h : readSwitch? w = none) :
    DocumentIsFaulty (.object members)

namespace Entry

/-- The file turns the mode on. -/
def StatesOn (e : Entry) : Prop :=
  ∃ t v, e = .file (Utf8.encode t) ∧ Json.IsDocument t v ∧ DocumentStatesOn v

/-- What stands at the path is at fault: it is a folder, or not text, or not a document, or the document
is at fault. -/
inductive IsFaulty : Entry → Prop
  | isFolder : IsFaulty .folder
  | notText {bytes : List UInt8} (h : ∀ t, bytes ≠ Utf8.encode t) : IsFaulty (.file bytes)
  | notDocument {t : List Char} (h : ¬ ∃ v, Json.IsDocument t v) : IsFaulty (.file (Utf8.encode t))
  | document {t : List Char} {v : Json.Value} (ht : Json.IsDocument t v) (h : DocumentIsFaulty v) :
    IsFaulty (.file (Utf8.encode t))

/-- The file is a text that is nested more deeply than the limit. -/
def NestsBeyond (limit : Nat) (e : Entry) : Prop :=
  ∃ t, e = .file (Utf8.encode t) ∧ Json.NestsBeyond limit t

end Entry

/-- A reading gives a preference, or fails where there is a fault. -/
def Reading.Decides (r : Reading) (on faulty : Prop) : Prop :=
  (¬ faulty ∧ ∃ b, r = .preference b ∧ (b = true ↔ on)) ∨ (faulty ∧ ¬ on ∧ ∃ f, r = .failure f)

/-! ## Documents -/

variable {limit : Nat} {members : List (Json.Text × Json.Value)} {v w : Json.Value} {t : List Char}
  {bytes : List UInt8}

theorem readSwitch?_eq_true_iff :
    readSwitch? w = some true ↔
      w = .bool true ∨ ∃ word, w = .string word ∧ readWord? word = some true := by
  cases w with
  | bool b => simp [readSwitch?]
  | string s => simp [readSwitch?]
  | _ => simp [readSwitch?]

/-- An object turns the mode on if the switch of its last member with the name is on. -/
theorem documentStatesOn_object_iff :
    DocumentStatesOn (.object members) ↔
      ∃ w, Json.IsLast memberName w members ∧ readSwitch? w = some true := by
  constructor
  · rintro ⟨members', hmembers, h⟩
    obtain rfl := Json.Value.object.inj hmembers
    rcases h with h | ⟨word, h, hword⟩
    · exact ⟨_, h, rfl⟩
    · exact ⟨_, h, hword⟩
  · rintro ⟨w, hlast, hw⟩
    refine ⟨members, rfl, ?_⟩
    rcases readSwitch?_eq_true_iff.mp hw with rfl | ⟨word, rfl, hword⟩
    · exact .inl hlast
    · exact .inr ⟨word, hlast, hword⟩

/-- It is at fault if the last member with the name is no switch. -/
theorem documentIsFaulty_object_iff :
    DocumentIsFaulty (.object members) ↔
      ∃ w, Json.IsLast memberName w members ∧ readSwitch? w = none := by
  constructor
  · intro h
    cases h with
    | notObject _ h => exact absurd rfl (h members)
    | notASwitch hlast h => exact ⟨_, hlast, h⟩
  · rintro ⟨w, hlast, h⟩
    exact .notASwitch hlast h

/-- Any other document is at fault if it counts as true. -/
theorem documentIsFaulty_iff_isTruthy (h : ∀ members, v ≠ .object members) :
    DocumentIsFaulty v ↔ v.isTruthy = true := by
  refine ⟨fun hv => ?_, fun htrue => .notObject htrue h⟩
  cases hv with
  | notObject htrue _ => exact htrue
  | notASwitch _ _ => exact absurd rfl (h _)

/-- An empty object is read like one without the member. -/
theorem ofDocument_object (members : List (Json.Text × Json.Value)) :
    ofDocument (.object members) =
      match Json.member? memberName members with
      | none => .preference false
      | some w =>
        match readSwitch w with
        | .ok b => .preference b
        | .error r => .failure (.notASwitch r) := by
  cases members with
  | nil => rfl
  | cons m rest => rfl

theorem ofDocument_of_not_object (h : ∀ members, v ≠ .object members) :
    ofDocument v = if v.isTruthy then .failure .notObject else .preference false := by
  cases v with
  | object members => exact absurd rfl (h members)
  | _ => rfl

theorem decides_ofDocument_object (members : List (Json.Text × Json.Value)) :
    (ofDocument (.object members)).Decides (DocumentStatesOn (.object members))
      (DocumentIsFaulty (.object members)) := by
  rw [documentStatesOn_object_iff, documentIsFaulty_object_iff, ofDocument_object]
  simp only [← Json.member?_eq_some_iff]
  cases Json.member? memberName members with
  | none => exact .inl ⟨by simp, false, rfl, by simp⟩
  | some w =>
    cases hw : readSwitch? w with
    | some b => exact .inl ⟨by simp [hw], b, by simp only [readSwitch, hw], by simp [hw]⟩
    | none => exact .inr ⟨by simp [hw], by simp [hw], _, by simp only [readSwitch, hw]; rfl⟩

/-- **What a document states.** -/
theorem decides_ofDocument (v : Json.Value) :
    (ofDocument v).Decides (DocumentStatesOn v) (DocumentIsFaulty v) := by
  by_cases hobject : ∃ members, v = .object members
  · obtain ⟨members, rfl⟩ := hobject
    exact decides_ofDocument_object members
  · have hne : ∀ members, v ≠ .object members := not_exists.mp hobject
    have hoff : ¬ DocumentStatesOn v := fun ⟨members, hv, _⟩ => hne members hv
    rw [documentIsFaulty_iff_isTruthy hne, ofDocument_of_not_object hne]
    cases v.isTruthy with
    | true => exact .inr ⟨rfl, hoff, _, rfl⟩
    | false => exact .inl ⟨by simp, false, rfl, by simp [hoff]⟩

/-- A document that has been read is not nested too deeply. -/
theorem ofDocument_ne_tooDeep (v : Json.Value) (d : Json.TooDeep) : ofDocument v ≠ .tooDeep d := by
  intro h
  rcases decides_ofDocument v with ⟨-, b, hb, -⟩ | ⟨-, -, f, hf⟩
  · rw [hb] at h
    cases h
  · rw [hf] at h
    cases h

/-! ## Files -/

namespace Entry

theorem statesOn_file_iff (ht : Json.IsDocument t v) :
    StatesOn (.file (Utf8.encode t)) ↔ DocumentStatesOn v := by
  refine ⟨fun ⟨t', v', he, ht', h⟩ => ?_, fun h => ⟨t, v, rfl, ht, h⟩⟩
  obtain rfl := Utf8.encode_inj.mp (Entry.file.inj he)
  rwa [ht.unique ht']

theorem isFaulty_file_iff (ht : Json.IsDocument t v) :
    IsFaulty (.file (Utf8.encode t)) ↔ DocumentIsFaulty v := by
  refine ⟨fun h => ?_, .document ht⟩
  generalize he : Entry.file (Utf8.encode t) = e at h
  cases h with
  | isFolder => exact nomatch he
  | notText h => exact absurd (Entry.file.inj he).symm (h t)
  | notDocument h =>
    obtain rfl := Utf8.encode_inj.mp (Entry.file.inj he)
    exact absurd ⟨v, ht⟩ h
  | document ht' h =>
    obtain rfl := Utf8.encode_inj.mp (Entry.file.inj he)
    rwa [ht.unique ht']

/-- An object turns the mode on, or is at fault, as the switch of its last member is read. -/
theorem statesOn_iff_of_isLast (ht : Json.IsDocument t (.object members))
    (hlast : Json.IsLast memberName w members) :
    StatesOn (.file (Utf8.encode t)) ↔ readSwitch? w = some true := by
  rw [statesOn_file_iff ht, documentStatesOn_object_iff]
  constructor
  · rintro ⟨w', hlast', h⟩
    rwa [hlast.unique hlast']
  · exact fun h => ⟨w, hlast, h⟩

theorem isFaulty_iff_of_isLast (ht : Json.IsDocument t (.object members))
    (hlast : Json.IsLast memberName w members) :
    IsFaulty (.file (Utf8.encode t)) ↔ readSwitch? w = none := by
  rw [isFaulty_file_iff ht, documentIsFaulty_object_iff]
  constructor
  · rintro ⟨w', hlast', h⟩
    rwa [hlast.unique hlast']
  · exact fun h => ⟨w, hlast, h⟩

theorem nestsBeyond_file_iff :
    NestsBeyond limit (.file (Utf8.encode t)) ↔ Json.NestsBeyond limit t := by
  constructor
  · rintro ⟨t', he, h⟩
    rwa [Utf8.encode_inj.mp (Entry.file.inj he)]
  · exact fun h => ⟨t, rfl, h⟩

end Entry

/-- The text of a file is nested too deeply where its reading breaks off. -/
theorem ofBytes_eq_tooDeep_iff :
    (∃ d, ofBytes limit (Utf8.encode t) = .tooDeep d) ↔ Json.NestsBeyond limit t := by
  rw [← Json.parse_tooDeep_iff, ofBytes, Utf8.decode_encode]
  simp only
  cases Json.parse limit t with
  | ok v =>
    constructor
    · rintro ⟨d, hd⟩
      exact absurd hd (ofDocument_ne_tooDeep v d)
    · rintro ⟨d, hd⟩
      cases hd
  | error e =>
    cases e with
    | malformed => simp
    | tooDeep d => simp

/-- What the bytes of a text state. -/
theorem decides_ofBytes_encode (h : ¬ Json.NestsBeyond limit t) :
    (ofBytes limit (Utf8.encode t)).Decides (Entry.StatesOn (.file (Utf8.encode t)))
      (Entry.IsFaulty (.file (Utf8.encode t))) := by
  by_cases hdocument : ∃ v, Json.IsDocument t v
  · obtain ⟨v, hv⟩ := hdocument
    rw [Entry.statesOn_file_iff hv, Entry.isFaulty_file_iff hv, ofBytes, Utf8.decode_encode]
    simp only [(Json.parse_eq_ok_iff h).mpr hv]
    exact decides_ofDocument v
  · -- The same bytes are of one text only, so no other text makes it a document.
    refine .inr ⟨.notDocument hdocument, ?_, .notDocument, ?_⟩
    · rintro ⟨t', v, he, hv, -⟩
      obtain rfl := Utf8.encode_inj.mp (Entry.file.inj he)
      exact hdocument ⟨v, hv⟩
    · rw [ofBytes, Utf8.decode_encode]
      simp only [(Json.parse_malformed_iff h).mpr hdocument]

/-- **What a file states**, or whatever else stands at the path. -/
theorem decides_ofEntry {e : Entry} (h : ¬ e.NestsBeyond limit) :
    (ofEntry limit e).Decides e.StatesOn e.IsFaulty := by
  cases e with
  | missing => exact .inl ⟨nofun, false, rfl, by simp [Entry.StatesOn]⟩
  | folder => exact .inr ⟨.isFolder, by simp [Entry.StatesOn], _, rfl⟩
  | file bytes =>
    cases hdecode : Utf8.decode bytes with
    | ok t =>
      obtain rfl := Utf8.decode_eq_ok_iff.mp hdecode
      exact decides_ofBytes_encode fun hdeep => h ⟨t, rfl, hdeep⟩
    | error f =>
      have hnone : ∀ t, bytes ≠ Utf8.encode t := fun t ht =>
        absurd (hdecode.symm.trans (Utf8.decode_eq_ok_iff.mpr ht)) nofun
      refine .inr ⟨.notText hnone, fun ⟨t, v, he, _⟩ => hnone t (Entry.file.inj he), .notText f, ?_⟩
      rw [ofEntry, ofBytes, hdecode]

/-- How much the limit is makes no difference to a file that is not nested beyond it. -/
theorem ofEntry_eq_ofEntry {limit' : Nat} {e : Entry} (h : ¬ e.NestsBeyond limit)
    (h' : ¬ e.NestsBeyond limit') : ofEntry limit e = ofEntry limit' e := by
  cases e with
  | missing => rfl
  | folder => rfl
  | file bytes =>
    rw [ofEntry, ofEntry, ofBytes, ofBytes]
    cases hdecode : Utf8.decode bytes with
    | error f => rfl
    | ok t =>
      obtain rfl := Utf8.decode_eq_ok_iff.mp hdecode
      simp only [Json.parse_eq_parse (fun hdeep => h ⟨t, rfl, hdeep⟩)
        fun hdeep => h' ⟨t, rfl, hdeep⟩]

/-! ## Loading -/

variable {s : State}

/-- A file that is nested beyond the limit breaks the reading off. -/
theorem load_of_nestsBeyond (h : s.root.entry.NestsBeyond limit) :
    ∃ d, load limit s = ⟨.error d, s, []⟩ := by
  obtain ⟨t, ht, hnested⟩ := h
  obtain ⟨d, hd⟩ := ofBytes_eq_tooDeep_iff.mpr hnested
  exact ⟨d, by rw [load, ht, ofEntry, hd]⟩

/-- Any other is read, without a trace or with an error. -/
theorem load_of_not_nestsBeyond (h : ¬ s.root.entry.NestsBeyond limit) :
    (¬ s.root.entry.IsFaulty ∧ ∃ b, load limit s = ⟨.ok b, s, []⟩ ∧ (b = true ↔ s.root.entry.StatesOn)) ∨
      (s.root.entry.IsFaulty ∧ ¬ s.root.entry.StatesOn ∧
        ∃ f, load limit s = ⟨.ok false, s, [.loadFailed f]⟩) := by
  rcases decides_ofEntry h with ⟨hsound, b, hb, hon⟩ | ⟨hfaulty, hoff, f, hf⟩
  · exact .inl ⟨hsound, b, by rw [load, hb], hon⟩
  · exact .inr ⟨hfaulty, hoff, f, by rw [load, hf]⟩

theorem load_breaksOff_iff :
    (∃ d, (load limit s).outcome = .error d) ↔ s.root.entry.NestsBeyond limit := by
  constructor
  · rintro ⟨d, hd⟩
    by_contra h
    rcases load_of_not_nestsBeyond h with ⟨-, b, hload, -⟩ | ⟨-, -, f, hload⟩
    · rw [hload] at hd
      cases hd
    · rw [hload] at hd
      cases hd
  · intro h
    obtain ⟨d, hload⟩ := load_of_nestsBeyond h
    exact ⟨d, by rw [hload]⟩

/-- **The file decides.** Reading it changes nothing. Unless the file is a text that is nested too
deeply for what the stack leaves, it gives a preference, which is on if the file says so and off in every
other case; if what stands at the path is at fault there is one error, and else no record. A text that is
nested too deeply breaks the reading off, without a record. -/
theorem load_decides (limit : Nat) (s : State) :
    (load limit s).state = s ∧
    (¬ s.root.entry.NestsBeyond limit →
      (∃ b, (load limit s).outcome = .ok b ∧ (b = true ↔ s.root.entry.StatesOn)) ∧
      (s.root.entry.IsFaulty → (load limit s).notices.map (·.record.level) = [.error]) ∧
      (¬ s.root.entry.IsFaulty → (load limit s).notices = [])) ∧
    (s.root.entry.NestsBeyond limit →
      (∃ d, (load limit s).outcome = .error d) ∧ (load limit s).notices = []) := by
  refine ⟨load_state limit s, fun hshallow => ?_, fun hdeep => ?_⟩
  · rcases load_of_not_nestsBeyond hshallow with ⟨hsound, b, hload, hon⟩ | ⟨hfaulty, hoff, f, hload⟩
    · rw [hload]
      exact ⟨⟨b, rfl, hon⟩, fun hfaulty => absurd hfaulty hsound, fun _ => rfl⟩
    · rw [hload]
      exact ⟨⟨false, rfl, by simp [hoff]⟩, fun _ => rfl, fun hsound => absurd hfaulty hsound⟩
  · obtain ⟨d, hload⟩ := load_of_nestsBeyond hdeep
    rw [hload]
    exact ⟨⟨d, rfl⟩, rfl⟩

/-- The last of two members decides. A word in mixed case, with a space before it and an escape in it, turns
the mode on after a null. A digit that is no word turns nothing on after a number, and is an error. Two
arrays, one inside the other, break the reading off where one can be open. -/
theorem load_decides_last_member :
    let holding t : State := ⟨none, .folder (.file (Utf8.encode t)), none⟩
    let on := holding (lastMemberText (earlierMember "null".toList) " \\u006fN".toList)
    let faulty := holding (lastMemberText (earlierMember "-0.5e1".toList) "2".toList)
    let deep := holding "[[]]".toList
    ((load 1 on).outcome = .ok true ∧ (load 1 on).notices = []) ∧
    ((load 1 faulty).outcome = .ok false ∧
      (load 1 faulty).notices.map (·.record.level) = [.error]) ∧
    (∃ d, (load 1 deep).outcome = .error d) ∧ (load 1 deep).notices = [] := by
  intro holding on faulty deep
  obtain ⟨v, hnumber⟩ : ∃ v, Json.Token.SpellsNumber v "-0.5e1".toList :=
    have hfive : Json.Token.IsDigits ['5'] := ⟨List.cons_ne_nil _ _, List.forall_mem_singleton.mpr rfl⟩
    have hone : Json.Token.IsDigits ['1'] := ⟨List.cons_ne_nil _ _, List.forall_mem_singleton.mpr rfl⟩
    ⟨_, .real true (.inl rfl) (.present hfive) (.bare (.inl rfl) hone) (by decide)⟩
  have hletter : Json.Token.SpellsUnit 0x6F "\\u006f".toList := .numbered rfl
  have hrest : Json.Token.SpellsText (['N'].map Char.toNat) ['N'] := Json.Token.spellsText_plain rfl
  have hword : Json.Token.SpellsText (points " oN") " \\u006fN".toList :=
    .unit (.plain (c := ' ') (by decide) (by decide) (by decide)) rfl
      (.unit hletter rfl hrest)
  have hdigit : Json.Token.SpellsText (points "2") "2".toList := Json.Token.spellsText_plain rfl
  have hnull := writes_earlierMember (Json.isDocument_of_spelled (.word .null))
  have hreal := writes_earlierMember (Json.isDocument_of_spelled (.number hnumber))
  have hon := isDocument_lastMemberText hnull hword
  have hfaulty := isDocument_lastMemberText hreal hdigit
  have honLast := Json.isLast_concat [(memberName, .null)] memberName (.string (points " oN"))
  have hfaultyLast := Json.isLast_concat [(memberName, v)] memberName (.string (points "2"))
  refine ⟨?_, ?_, ?_⟩
  · have hstates : on.root.entry.StatesOn := (Entry.statesOn_iff_of_isLast hon honLast).mpr rfl
    have hsound : ¬ on.root.entry.IsFaulty :=
      (Entry.isFaulty_iff_of_isLast hon honLast).not.mpr (by decide)
    obtain ⟨⟨b, hb, hiff⟩, -, hquiet⟩ := (load_decides 1 on).2.1
      (Entry.nestsBeyond_file_iff.not.mpr (not_nestsBeyond_lastMemberText hnull hword (by decide)))
    exact ⟨hiff.mpr hstates ▸ hb, hquiet hsound⟩
  · have hwrong : faulty.root.entry.IsFaulty :=
      (Entry.isFaulty_iff_of_isLast hfaulty hfaultyLast).mpr rfl
    have hoff : ¬ faulty.root.entry.StatesOn :=
      (Entry.statesOn_iff_of_isLast hfaulty hfaultyLast).not.mpr (by decide)
    have hroom : (Json.continued ([(memberName, v)].map Json.namedTokens)).countP Json.Token.opens < 1 := by
      rw [continued_single, Json.tokens_of_isScalar (Json.Token.SpellsScalar.number hnumber).isScalar]
      exact Nat.zero_lt_one
    obtain ⟨⟨b, hb, hiff⟩, herror, -⟩ := (load_decides 1 faulty).2.1
      (Entry.nestsBeyond_file_iff.not.mpr (not_nestsBeyond_lastMemberText hreal hdigit hroom))
    cases b with
    | true => exact absurd (hiff.mp rfl) hoff
    | false => exact ⟨hb, herror hwrong⟩
  · have hdeep : deep.root.entry.NestsBeyond 1 :=
      ⟨_, rfl, Json.nestsBeyond_openArrays (Nat.le_refl 1) [']', ']']⟩
    exact (load_decides 1 deep).2.2 hdeep

end CellWidth.Settings
