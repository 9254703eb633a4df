import CellWidth.Proofs.Resolution
import CellWidth.Settings.Request

/-!
# Measuring in a mode that is settled once

The functions on text call each other, and each of them can settle the mode for itself. A call from
outside settles it once: what it measures afterwards is told the mode, and settles nothing.

So a call that leaves the mode open settles it with what is left to the call, and is then the same call
with the mode given (`Request.run_of_asksMode`). A call with the mode given, or one for which no mode
matters, has one answer for all states and leaves no trace (`Request.run_of_isSettled`). In that mode a
text is cut and filled up as `Layout` says (`Settings.truncate_eq`, `Settings.pad_eq`).
-/

namespace CellWidth.Settings

variable (limit : Nat) (room : Layout.Room) (t : List Char) (w : Int) (e fill : List Char)
  (name : String) (c : Symbol) (b : Bool)

/-! ## The mode given -/

theorem mode_some : mode limit (some b) = pure (.ofLegacy b) := by
  simp only [mode, resolve_some, pure_bind]

/-- With the mode given, the width of a text is `CellWidth.textWidth`; an empty one has none in any
mode. -/
theorem textWidth_some :
    textWidth limit t (some b) = pure (CellWidth.textWidth (.ofLegacy b) t) := by
  unfold textWidth
  cases t with
  | nil => rfl
  | cons c t => simp only [List.isEmpty_cons, Bool.false_eq_true, if_false, mode_some, pure_bind]

theorem isWide_some : isWide limit c (some b) = pure (c.isWide (.ofLegacy b)) := by
  simp only [isWide, mode_some, pure_bind]

/-- With the mode given, all measurements of a cut are in that mode. -/
theorem truncate_some :
    truncate limit t w e (some b) = pure (Layout.truncate (.ofLegacy b) t w e) := by
  simp only [truncate, Layout.truncate, resolve_some, textWidth_some, mode_some, pure_bind]
  split
  · rfl
  · split
    · rfl
    · rfl

/-- With the mode given, the text and the fill are measured in that mode. -/
theorem pad_some {a : Layout.Align} (ha : Layout.Align.parse? name = some a) :
    pad limit room t w name fill (some b) = pure (Layout.pad room (.ofLegacy b) t w a fill) := by
  simp only [pad, ha, Layout.pad, resolve_some, textWidth_some, mode_some, pure_bind]
  split
  · rfl
  · rfl

/-- A name that is no alignment is refused before anything else. -/
theorem pad_of_parse?_eq_none (ha : Layout.Align.parse? name = none) (legacy : Option Bool) :
    pad limit room t w name fill legacy = pure (.error (.align name)) := by
  rw [pad, ha]

/-! ## The mode left open -/

/-- To leave the mode open is to settle it and then to give it. -/
theorem mode_none : mode limit none = resolve limit none >>= fun on => mode limit (some on) := by
  simp only [mode, resolve_some, pure_bind]

/-- A text with characters needs the mode. -/
theorem textWidth_none (ht : t ≠ []) :
    textWidth limit t none = resolve limit none >>= fun on => textWidth limit t (some on) := by
  cases t with
  | nil => exact absurd rfl ht
  | cons c t =>
    simp only [textWidth, List.isEmpty_cons, Bool.false_eq_true, if_false]
    rw [mode_none, bind_assoc]

theorem isWide_none :
    isWide limit c none = resolve limit none >>= fun on => isWide limit c (some on) := by
  simp only [isWide]
  rw [mode_none, bind_assoc]

/-- A cut settles the mode before it measures. -/
theorem truncate_none :
    truncate limit t w e none = resolve limit none >>= fun on => truncate limit t w e (some on) := by
  simp only [truncate, resolve_some, pure_bind]

/-- So does filling up, where the alignment is one. -/
theorem pad_none {a : Layout.Align} (ha : Layout.Align.parse? name = some a) :
    pad limit room t w name fill none =
      resolve limit none >>= fun on => pad limit room t w name fill (some on) := by
  simp only [pad, ha, resolve_some, pure_bind]

/-- A text is cut in the mode that the settings give. -/
theorem truncate_eq (legacy : Option Bool) :
    truncate limit t w e legacy =
      mode limit legacy >>= fun m => pure (Layout.truncate m t w e) := by
  cases legacy with
  | none => simp only [truncate_none, truncate_some, mode_none, mode_some, bind_assoc, pure_bind]
  | some b => simp only [truncate_some, mode_some, pure_bind]

/-- A text is filled up in the mode that the settings give. -/
theorem pad_eq {a : Layout.Align} (ha : Layout.Align.parse? name = some a) (legacy : Option Bool) :
    pad limit room t w name fill legacy =
      mode limit legacy >>= fun m => pure (Layout.pad room m t w a fill) := by
  cases legacy with
  | none =>
    simp only [pad_none limit room t w fill name ha, pad_some limit room t w fill name _ ha, mode_none, mode_some, bind_assoc,
      pure_bind]
  | some b => simp only [pad_some limit room t w fill name b ha, mode_some, pure_bind]

/-! ## Requests -/

namespace Request

variable {r : Request} {s : State} {a : Allowance}

/-- The same request with the mode given, where it was left open. -/
def withSwitch (on : Bool) : Request → Request
  | textWidth t none => textWidth t (some on)
  | isWide c none => isWide c (some on)
  | truncate t w e none => truncate t w e (some on)
  | pad t w name fill none => pad t w name fill (some on)
  | r => r

/-- The request is to measure, and it leaves open a mode that matters: the text has characters, or the
alignment is one. -/
def AsksMode : Request → Prop
  | textWidth t none => t ≠ []
  | isWide _ none => True
  | truncate _ _ _ none => True
  | pad _ _ name _ none => (Layout.Align.parse? name).isSome
  | _ => False

/-- The mode that a request to measure gives. -/
def given : Request → Option Bool
  | textWidth _ legacy => legacy
  | isWide _ legacy => legacy
  | truncate _ _ _ legacy => legacy
  | pad _ _ _ _ legacy => legacy
  | _ => none

/-- The request is to measure, and the mode is given or does not matter: the text is empty, or the
alignment is none. -/
def IsSettled (r : Request) : Prop :=
  r.given.isSome ∨ (∃ legacy, r = textWidth [] legacy) ∨
    ∃ t w name fill legacy, r = pad t w name fill legacy ∧ Layout.Align.parse? name = none

/-- A call that leaves the mode open settles it with what is left to the call, and is then the call with
the mode given. -/
theorem run_of_asksMode (h : r.AsksMode) :
    r.run a = Settings.resolve a.nesting none >>= fun on => (r.withSwitch on).run a := by
  cases r with
  | textWidth t legacy =>
    cases legacy with
    | some b => exact h.elim
    | none => simp only [run, withSwitch, textWidth_none a.nesting t h, bind_assoc]
  | isWide c legacy =>
    cases legacy with
    | some b => exact h.elim
    | none => simp only [run, withSwitch, isWide_none a.nesting c, bind_assoc]
  | truncate t w e legacy =>
    cases legacy with
    | some b => exact h.elim
    | none => simp only [run, withSwitch, truncate_none a.nesting t w e, bind_assoc]
  | pad t w name fill legacy =>
    cases legacy with
    | some b => exact h.elim
    | none =>
      obtain ⟨side, hside⟩ := Option.isSome_iff_exists.mp h
      simp only [run, withSwitch, pad_none a.nesting a.room t w fill name hside, bind_assoc]
  | _ => exact h.elim

/-- The answer to a request to measure, in a mode and with so much room. -/
def measured (room : Layout.Room) (m : Mode) : Request → Answer
  | textWidth t _ => .count (CellWidth.textWidth m t)
  | isWide c _ => .switch (c.isWide m)
  | truncate t w e _ => .text (Layout.truncate m t w e)
  | pad t w name fill _ =>
    match Layout.Align.parse? name with
    | none => .refused (.pad (.align name))
    | some a =>
      match Layout.pad room m t w a fill with
      | .ok padded => .text padded
      | .error e => .refused (.pad e)
  | _ => .done

theorem run_pad_of_parse?_eq_none {name : String} (ha : Layout.Align.parse? name = none)
    (t : List Char) (w : Int) (fill : List Char) (legacy : Option Bool) :
    (pad t w name fill legacy).run a = pure (.refused (.pad (.align name))) := by
  simp only [run, pad_of_parse?_eq_none a.nesting a.room t w fill name ha, pure_bind]

theorem run_pad_some (t : List Char) (w : Int) (name : String) (fill : List Char) (b : Bool) :
    (pad t w name fill (some b)).run a =
      pure ((pad t w name fill (some b)).measured a.room (.ofLegacy b)) := by
  cases hside : Layout.Align.parse? name with
  | none => simp only [run_pad_of_parse?_eq_none hside, measured, hside]
  | some side =>
    simp only [run, measured, pad_some a.nesting a.room t w fill name b hside, hside, pure_bind]
    cases Layout.pad a.room (.ofLegacy b) t w side fill with
    | ok padded => rfl
    | error e => rfl

/-- With the mode given, the answer is that of the mode, in every state and without a trace. -/
theorem run_of_given {b : Bool} (h : r.given = some b) :
    r.run a = pure (r.measured a.room (.ofLegacy b)) := by
  cases r with
  | textWidth t legacy =>
    obtain rfl : legacy = some b := h
    simp only [run, measured, textWidth_some, pure_bind]
  | isWide c legacy =>
    obtain rfl : legacy = some b := h
    simp only [run, measured, isWide_some, pure_bind]
  | truncate t w e legacy =>
    obtain rfl : legacy = some b := h
    simp only [run, measured, truncate_some, pure_bind]
  | pad t w name fill legacy =>
    obtain rfl : legacy = some b := h
    exact run_pad_some t w name fill b
  | _ => exact nomatch h

/-- A call taken apart has the mode given. -/
theorem given_withSwitch (h : r.AsksMode) (b : Bool) : (r.withSwitch b).given = some b := by
  cases r with
  | textWidth t legacy => cases legacy with | none => rfl | some b => exact h.elim
  | isWide c legacy => cases legacy with | none => rfl | some b => exact h.elim
  | truncate t w e legacy => cases legacy with | none => rfl | some b => exact h.elim
  | pad t w name fill legacy => cases legacy with | none => rfl | some b => exact h.elim
  | _ => exact h.elim

/-- What is measured does not hang on how the mode came to be known. -/
theorem measured_withSwitch (room : Layout.Room) (m : Mode) (b : Bool) :
    (r.withSwitch b).measured room m = r.measured room m := by
  cases r with
  | textWidth t legacy => cases legacy with | none => rfl | some b => rfl
  | isWide c legacy => cases legacy with | none => rfl | some b => rfl
  | truncate t w e legacy => cases legacy with | none => rfl | some b => rfl
  | pad t w name fill legacy => cases legacy with | none => rfl | some b => rfl
  | _ => rfl

theorem run_withSwitch (h : r.AsksMode) (b : Bool) :
    (r.withSwitch b).run a = pure (r.measured a.room (.ofLegacy b)) := by
  rw [run_of_given (given_withSwitch h b), measured_withSwitch]

/-- A call for which the mode is settled needs nothing of the stack. -/
theorem run_of_isSettled (h : r.IsSettled) (room : Layout.Room) :
    ∃ answer, ∀ nesting, r.run ⟨nesting, room⟩ = pure answer := by
  rcases h with h | ⟨legacy, rfl⟩ | ⟨t, w, name, fill, legacy, rfl, ha⟩
  · obtain ⟨b, hb⟩ := Option.isSome_iff_exists.mp h
    exact ⟨r.measured room (.ofLegacy b), fun _ => run_of_given hb⟩
  · exact ⟨.count 0, fun _ => rfl⟩
  · exact ⟨_, fun _ => run_pad_of_parse?_eq_none ha t w fill legacy⟩

/-- The settling of the mode decides the answer, and nothing else happens. -/
theorem run_eq_of_asksMode (h : r.AsksMode) :
    r.run a = Settings.defaultSwitch a.nesting >>= fun b => pure (r.measured a.room (.ofLegacy b)) := by
  simp only [run_of_asksMode h, resolve_none, run_withSwitch h]

end Request

end CellWidth.Settings
