/-!
# The longest beginning of a list

Both the cutting of a text and the measuring of a sequence stop somewhere, and what comes before is the
longest beginning that has some property: it fits, or it has no terminator. `LongestBeginning` says so
without a word on how that beginning is found.
-/

namespace CellWidth

variable {α : Type} {holds : List α → Prop} {t p : List α}

/-- `p` is a beginning of `t` with a property, and no other beginning with that property is longer. -/
structure LongestBeginning (holds : List α → Prop) (t p : List α) : Prop where
  begins : p <+: t
  has : holds p
  longest : ∀ q, q <+: t → holds q → q.length ≤ p.length

/-- A beginning that all others with the property begin is the longest of them. -/
theorem LongestBeginning.of_begins (begins : p <+: t) (has : holds p)
    (h : ∀ q, q <+: t → holds q → q <+: p) : LongestBeginning holds t p where
  begins := begins
  has := has
  longest q hq hholds := (h q hq hholds).length_le

/-- A beginning whose elements all pass a test is a beginning of those up to the first that fails. -/
theorem begins_takeWhile {f : α → Bool} : ∀ {q t : List α}, q <+: t → (∀ x ∈ q, f x = true) →
    q <+: t.takeWhile f
  | [], _, _, _ => List.nil_prefix
  | x :: q, [], hq, _ => absurd (List.prefix_nil.mp hq) (List.cons_ne_nil x q)
  | x :: q, y :: t, hq, hall => by
    obtain ⟨rfl, hrest⟩ := List.cons_prefix_cons.mp hq
    obtain ⟨hx, hqall⟩ := List.forall_mem_cons.mp hall
    rw [List.takeWhile_cons_of_pos hx, List.cons_prefix_cons]
    exact ⟨rfl, begins_takeWhile hrest hqall⟩

/-- The elements up to the first that fails a test are the longest beginning without a failure. -/
theorem longestBeginning_takeWhile (f : α → Bool) (t : List α) :
    LongestBeginning (fun q => ∀ x ∈ q, f x = true) t (t.takeWhile f) :=
  .of_begins (List.takeWhile_prefix f) (List.all_eq_true.mp List.all_takeWhile)
    fun _ hq hall => begins_takeWhile hq hall

end CellWidth
