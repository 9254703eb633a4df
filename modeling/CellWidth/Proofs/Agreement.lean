import CellWidth.Proofs.Loading
import CellWidth.Proofs.Switches

/-!
# The variable and the file accept the same texts

The same text can be given as the environment variable or as the member of the preference file. It goes
different ways: the variable is taken as it is, unless it is blank, and a refusal is a warning that lets
the next source decide; the member is spelled in a document, maybe with escapes and after others of its
name, and a refusal is an error that turns the mode off. In the middle is one reader, so the two agree:
one of them takes the text if the other does, with the same meaning, and both refuse it in the same words.

This holds of the documents that the reader of documents takes. It has limits of its own, for the depth
of a document and for the digits of an integer, and a file beyond them is not looked at for its member.

* `Settings.variableSwitch_of_ok`, `Settings.variableSwitch_of_error` — what comes of the variable
* `Settings.load_of_ok`, `Settings.load_of_error` — what comes of the last member
* `Settings.variable_agrees_with_file` — the two compared
* `Settings.unlike_beyond_limits` — two files beyond the limits
-/

namespace CellWidth.Settings

open CellWidth.Text

variable {limit : Nat} {s : State} {raw : String} {on : Bool} {r : NotASwitch} {t : List Char}
  {v w : Json.Value} {members : List (Json.Text × Json.Value)}

/-! ## The variable -/

/-- A switch is taken from the variable without a record. -/
theorem variableSwitch_of_ok (hs : s.variableText = some raw)
    (h : readSwitch (.string (points raw)) = .ok on) : variableSwitch s = ⟨.ok (some on), s, []⟩ := by
  have hswitch : s.switch = some on := by
    rw [State.switch, hs]
    exact readSwitch_eq_ok_iff.mp h
  obtain ⟨ns, hvariable, rfl | ⟨hnone, -⟩⟩ := variableSwitch_eq s
  · rw [hvariable, hswitch]
  · rw [hswitch] at hnone
    cases hnone

/-- A text that is no switch gives a warning, unless it is blank. -/
theorem variableSwitch_of_error (hs : s.variableText = some raw)
    (hraw : trimBy isBlank (points raw) ≠ []) (h : readSwitch (.string (points raw)) = .error r) :
    variableSwitch s = ⟨.ok none, s, [.variableIgnored r]⟩ := by
  have hblank : ¬ (trimBy isBlank (points raw)).isEmpty = true := by
    rw [List.isEmpty_iff]
    exact hraw
  unfold variableSwitch
  rw [hs]
  simp only [if_neg hblank, h]

/-! ## The file -/

/-- What stands at the path is the text of an object, in which the last member with the name has this
value. -/
def Entry.Holds (e : Entry) (w : Json.Value) : Prop :=
  ∃ t members, e = .file (Utf8.encode t) ∧ Json.IsDocument t (.object members) ∧
    Json.IsLast memberName w members

theorem load_of_failure {bytes : List UInt8} {f : LoadFailure} (hs : s.root.entry = .file bytes)
    (h : ofBytes limit bytes = .failure f) : load limit s = ⟨.ok false, s, [.loadFailed f]⟩ := by
  rw [load, hs, ofEntry, h]

/-- Within the limit of depth, what such a file states is for the one member to say. -/
theorem ofEntry_of_holds {e : Entry} (he : e.Holds w) (hshallow : ¬ e.NestsBeyond limit) :
    ∃ members, ofEntry limit e = ofDocument (.object members) ∧
      Json.member? memberName members = some w := by
  obtain ⟨t, members, rfl, ht, hlast⟩ := he
  have hparse := (Json.parse_eq_ok_iff fun h => hshallow ⟨t, rfl, h⟩).mpr ht
  refine ⟨members, ?_, Json.member?_eq_some_iff.mpr hlast⟩
  rw [ofEntry, ofBytes, Utf8.decode_encode]
  simp only [hparse]

/-- A switch is taken from the file without a record. -/
theorem load_of_ok (hs : s.root.entry.Holds w) (hshallow : ¬ s.root.entry.NestsBeyond limit)
    (h : readSwitch w = .ok on) : load limit s = ⟨.ok on, s, []⟩ := by
  obtain ⟨members, hentry, hmember⟩ := ofEntry_of_holds hs hshallow
  rw [load, hentry, ofDocument_object, hmember]
  simp only [h]

/-- What is no switch is an error, and leaves the mode off. -/
theorem load_of_error (hs : s.root.entry.Holds w) (hshallow : ¬ s.root.entry.NestsBeyond limit)
    (h : readSwitch w = .error r) :
    load limit s = ⟨.ok false, s, [.loadFailed (.notASwitch r)]⟩ := by
  obtain ⟨members, hentry, hmember⟩ := ofEntry_of_holds hs hshallow
  rw [load, hentry, ofDocument_object, hmember]
  simp only [h]

theorem holds_lastMemberText {earlier form : List Char} {word : Json.Text}
    (hearlier : Json.Token.Writes earlier (Json.continued (members.map Json.namedTokens)))
    (h : Json.Token.SpellsText word form) :
    (Entry.file (Utf8.encode (lastMemberText earlier form))).Holds (.string word) :=
  ⟨_, _, rfl, isDocument_lastMemberText hearlier h, Json.isLast_concat _ _ _⟩

/-! ## The two compared -/

/-- The words in which a text is refused. -/
def refusalText (raw : String) : String :=
  "Invalid boolean value: " ++ String.ofList (Quoted.write (points raw))

theorem message_of_refused (h : readSwitch (.string (points raw)) = .error r) :
    r.message = refusalText raw := by
  obtain ⟨rfl, -⟩ := readSwitch_eq_error_iff.mp h
  have hdisplay : (Json.Value.string (points raw)).display = Quoted.write (points raw) := by
    rw [Json.Value.display]
  exact congrArg (fun shown => "Invalid boolean value: " ++ String.ofList shown) hdisplay

/-- **The variable and the file accept the same texts**, with the same meaning, and refuse the others in
the same words. For the file this does not hang on how its member is spelled, or on how much of the stack
is left, as long as the file is read to its end. -/
theorem variable_agrees_with_file {limit : Nat} {e f : State} (he : e.variableText = some raw)
    (hraw : trimBy isBlank (points raw) ≠ []) (hf : f.root.entry.Holds (.string (points raw)))
    (hshallow : ¬ f.root.entry.NestsBeyond limit) :
    (∀ on, variableSwitch e = ⟨.ok (some on), e, []⟩ ↔ load limit f = ⟨.ok on, f, []⟩) ∧
    ((∃ n, variableSwitch e = ⟨.ok none, e, [n]⟩ ∧ n.record.level = .warning) ↔
      ∃ m, load limit f = ⟨.ok false, f, [m]⟩ ∧ m.record.level = .error) ∧
    (∀ n ∈ (variableSwitch e).notices, ∀ m ∈ (load limit f).notices,
      n.record.message = "Ignoring " ++ Notice.variableName ++ ": " ++ refusalText raw ∧
        m.record.message = Notice.loadFailedText ++ refusalText raw) ∧
    ((∃ on, variableSwitch e = ⟨.ok (some on), e, []⟩) ∨
      ∃ n, variableSwitch e = ⟨.ok none, e, [n]⟩) ∧
    (∀ form, Json.Token.SpellsText (points raw) form →
      ∀ g : State, g.root.entry = .file (Utf8.encode (lastMemberText [] form)) →
        ∀ room, 0 < room → load room g = ⟨(load limit f).outcome, g, (load limit f).notices⟩) := by
  have hspelled {form : List Char} (hform : Json.Token.SpellsText (points raw) form) {g : State}
      (hg : g.root.entry = .file (Utf8.encode (lastMemberText [] form))) {room : Nat}
      (hroom : 0 < room) :
      g.root.entry.Holds (.string (points raw)) ∧ ¬ g.root.entry.NestsBeyond room := by
    have hnone : Json.Token.Writes []
        (Json.continued (([] : List (Json.Text × Json.Value)).map Json.namedTokens)) := .nil
    rw [hg]
    exact ⟨holds_lastMemberText hnone hform,
      Entry.nestsBeyond_file_iff.not.mpr (not_nestsBeyond_lastMemberText hnone hform hroom)⟩
  -- Both ways go through the one reader, so its two answers are the two cases.
  cases hread : readSwitch (.string (points raw)) with
  | ok on =>
    have hvariable := variableSwitch_of_ok he hread
    have hload := load_of_ok hf hshallow hread
    rw [hvariable, hload]
    refine ⟨fun b => by simp, by simp, by simp, .inl ⟨on, rfl⟩, fun form hform g hg room hroom => ?_⟩
    exact load_of_ok (hspelled hform hg hroom).1 (hspelled hform hg hroom).2 hread
  | error r =>
    have hvariable := variableSwitch_of_error he hraw hread
    have hload := load_of_error hf hshallow hread
    have hmessage := message_of_refused hread
    rw [hvariable, hload]
    refine ⟨fun b => by simp, ?_, ?_, .inr ⟨_, rfl⟩, fun form hform g hg room hroom => ?_⟩
    · exact ⟨fun _ => ⟨_, rfl, rfl⟩, fun _ => ⟨_, rfl, rfl⟩⟩
    · intro n hn m hm
      obtain rfl := List.mem_singleton.mp hn
      obtain rfl := List.mem_singleton.mp hm
      rw [← hmessage]
      exact ⟨rfl, rfl⟩
    · exact load_of_error (hspelled hform hg hroom).1 (hspelled hform hg hroom).2 hread

/-- The variable is set, and there is a file with such members. -/
def bothSet (raw : String) (earlier form : List Char) : State :=
  ⟨some raw, .folder (.file (Utf8.encode (lastMemberText earlier form))), none⟩

/-- A pair of surrogates in the last of two members, and the character in the variable: both are refused,
though the first member would have been taken. -/
theorem variable_agrees_with_file_pair :
    let s := bothSet "😀" (earlierMember "true".toList) "\\ud83d\\ude00".toList
    s.variableText = some "😀" ∧ trimBy isBlank (points "😀") ≠ [] ∧
      s.root.entry.Holds (.string (points "😀")) ∧ ¬ s.root.entry.NestsBeyond 1 ∧
      ∃ m, load 1 s = ⟨.ok false, s, [m]⟩ ∧ m.record.level = .error := by
  intro s
  have hvalue : Json.IsDocument "true".toList (.bool true) :=
    Json.Token.writes_scalar (.word .true)
  have hearlier := writes_earlierMember hvalue
  have hhigh : Json.Token.SpellsUnit 0xD83D "\\ud83d".toList := .numbered rfl
  have hlow : Json.Token.SpellsUnit 0xDE00 "\\ude00".toList := .numbered rfl
  have hform : Json.Token.SpellsText (points "😀") "\\ud83d\\ude00".toList :=
    .cons (.pair hhigh hlow ⟨rfl, rfl⟩) nofun .nil
  have hraw : trimBy isBlank (points "😀") ≠ [] := by decide
  have hf : s.root.entry.Holds (.string (points "😀")) := holds_lastMemberText hearlier hform
  have hshallow : ¬ s.root.entry.NestsBeyond 1 :=
    Entry.nestsBeyond_file_iff.not.mpr (not_nestsBeyond_lastMemberText hearlier hform (by decide))
  have h := variable_agrees_with_file (e := s) rfl hraw hf hshallow
  exact ⟨rfl, hraw, hf, hshallow, h.2.1.mp ⟨_, rfl, rfl⟩⟩

/-- **Beyond the limits the two are not alike.** The word is taken from the variable. With 3001 arrays one
inside the other before it, the reading of the file breaks off where at most 3000 can be open; with an
integer of 4301 digits before it, the file is refused. -/
theorem unlike_beyond_limits :
    let deep := bothSet "on" (earlierMember (Json.nestText 3000)) "on".toList
    let long := bothSet "on" (earlierMember (longText 4300)) "on".toList
    (deep.root.entry.Holds (.string (points "on")) ∧
      variableSwitch deep = ⟨.ok (some true), deep, []⟩ ∧
      ∀ limit, limit ≤ 3000 → ∃ d, load limit deep = ⟨.error d, deep, []⟩) ∧
    variableSwitch long = ⟨.ok (some true), long, []⟩ ∧
      ∀ limit, 0 < limit → load limit long = ⟨.ok false, long, [.loadFailed .notDocument]⟩ := by
  intro deep long
  have hform : Json.Token.SpellsText (points "on") "on".toList := Json.Token.spellsText_plain rfl
  have hread : readSwitch (.string (points "on")) = .ok true := rfl
  refine ⟨⟨?_, variableSwitch_of_ok rfl hread, ?_⟩, variableSwitch_of_ok rfl hread, ?_⟩
  · exact holds_lastMemberText (writes_earlierMember (Json.isDocument_nestText 3000)) hform
  · intro limit hlimit
    exact load_of_nestsBeyond ⟨_, rfl, nestsBeyond_nestText hlimit "on".toList⟩
  · intro limit hlimit
    exact load_of_failure rfl (ofBytes_longText hlimit (Nat.le_refl 4300) _)

end CellWidth.Settings
