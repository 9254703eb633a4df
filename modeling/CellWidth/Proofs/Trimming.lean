import CellWidth.Text.Blank
import Mathlib.Data.List.DropRight

/-!
# What trimming leaves

A text that neither begins nor ends with a blank comes back from between blanks. Trimming never reaches
past an element that stays, so what stands before such an element stays too.

* `trimBy_around` — what stands between the blanks comes back
* `exists_eq_around_trimBy` — what is taken away are blanks before and after
* `trimBy_append_of_all` — blanks at the end make no difference
* `trimEndBy_append_cons` — trimming the end stops at an element that stays
-/

namespace CellWidth.Text

variable {α : Type} {p : α → Bool} {a : α} {t before after : List α}

/-- Trimming has nothing to do: the list neither begins nor ends with an element that satisfies `p`. -/
structure IsTrimmed (p : α → Bool) (t : List α) : Prop where
  head : ∀ a ∈ t.head?, p a = false
  last : ∀ a ∈ t.getLast?, p a = false

theorem isTrimmed_iff :
    IsTrimmed p t ↔ (t.head?.all fun a => !p a) = true ∧ (t.getLast?.all fun a => !p a) = true := by
  simp only [Option.all_eq_true, Bool.not_eq_true', ← Option.mem_def]
  exact ⟨fun h => ⟨h.head, h.last⟩, fun h => ⟨h.1, h.2⟩⟩

instance (p : α → Bool) (t : List α) : Decidable (IsTrimmed p t) :=
  decidable_of_iff _ isTrimmed_iff.symm

/-- Nothing is dropped where the first element stays. -/
theorem dropWhile_of_head (h : ∀ a ∈ t.head?, p a = false) : t.dropWhile p = t := by
  cases t with
  | nil => rfl
  | cons a t => exact List.dropWhile_cons_of_neg (by simp [h a rfl])

/-! ## The end -/

theorem trimEndBy_of_last (h : ∀ a ∈ t.getLast?, p a = false) : trimEndBy p t = t := by
  have hhead : ∀ a ∈ t.reverse.head?, p a = false := by
    rw [List.head?_reverse]
    exact h
  rw [trimEndBy, dropWhile_of_head hhead, List.reverse_reverse]

/-- What would be trimmed away can be at the end or not. -/
theorem trimEndBy_append_of_all (h : ∀ a ∈ after, p a = true) :
    trimEndBy p (t ++ after) = trimEndBy p t := by
  have hafter : ∀ a ∈ after.reverse, p a = true := fun a ha => h a (List.mem_reverse.mp ha)
  rw [trimEndBy, List.reverse_append, List.dropWhile_append_of_pos hafter]
  rfl

/-- Trimming the end stops at an element that stays. -/
theorem trimEndBy_append_cons (h : p a = false) :
    trimEndBy p (t ++ a :: after) = t ++ a :: trimEndBy p after := by
  have hstays : (a :: t.reverse).dropWhile p = a :: t.reverse :=
    List.dropWhile_cons_of_neg (by simp [h])
  rw [trimEndBy, List.reverse_append, List.reverse_cons, List.append_assoc, List.singleton_append,
    List.dropWhile_append, trimEndBy]
  split
  · next hempty => rw [List.isEmpty_iff.mp hempty, hstays]; simp
  · simp

/-- What is trimmed from the end satisfies `p`. -/
theorem exists_eq_trimEndBy_append (p : α → Bool) (t : List α) :
    ∃ after, t = trimEndBy p t ++ after ∧ ∀ a ∈ after, p a = true :=
  ⟨t.rtakeWhile p, List.rdropWhile_append_rtakeWhile.symm, fun _ => List.mem_rtakeWhile_imp⟩

/-! ## Both ends -/

theorem trimBy_append_of_all (h : ∀ a ∈ after, p a = true) : trimBy p (t ++ after) = trimBy p t := by
  rw [trimBy, trimBy, List.dropWhile_append]
  split
  · next hempty =>
    -- Nothing of `t` stays, and nothing of what follows it does.
    rw [List.isEmpty_iff.mp hempty, List.dropWhile_eq_nil_iff.mpr h]
  · exact trimEndBy_append_of_all h

theorem trimBy_of_all_append (h : ∀ a ∈ before, p a = true) :
    trimBy p (before ++ t) = trimBy p t := by
  rw [trimBy, List.dropWhile_append_of_pos h]
  rfl

/-- Where neither end would be trimmed, all of it stays. -/
theorem IsTrimmed.trimBy_eq (h : IsTrimmed p t) : trimBy p t = t := by
  rw [trimBy, dropWhile_of_head h.head, trimEndBy_of_last h.last]

/-- What is trimmed from both ends satisfies `p`. -/
theorem exists_eq_around_trimBy (p : α → Bool) (t : List α) :
    ∃ before after, t = before ++ trimBy p t ++ after ∧ (∀ a ∈ before, p a = true) ∧
      ∀ a ∈ after, p a = true := by
  obtain ⟨after, hafter, hall⟩ := exists_eq_trimEndBy_append p (t.dropWhile p)
  refine ⟨t.takeWhile p, after, ?_, fun _ ha => List.mem_takeWhile_imp ha, hall⟩
  rw [List.append_assoc, trimBy, ← hafter, List.takeWhile_append_dropWhile]

/-- **What stands between blanks comes back.** -/
theorem trimBy_around (hbefore : ∀ a ∈ before, p a = true) (ht : IsTrimmed p t)
    (hafter : ∀ a ∈ after, p a = true) : trimBy p (before ++ t ++ after) = t := by
  rw [trimBy_append_of_all hafter, trimBy_of_all_append hbefore, ht.trimBy_eq]

end CellWidth.Text
