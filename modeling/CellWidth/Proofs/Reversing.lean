import CellWidth.Proofs.Canonical
import CellWidth.Proofs.Offences
import CellWidth.Proofs.Selection

/-!
# Reversed intervals in generated tables

A data line may state an interval that ends before it begins, and no reader of lines minds. Such an
interval holds no code point. In the merge it does no harm if other intervals fill its place
(`Interval.IsFilled`): they reach up to where it begins, so that it is swallowed; or it ends right before
it begins and an interval begins there, so that it grows. Otherwise it comes out of the merge reversed,
and the table does not pass the check.

The walk of the merge decides this interval by interval. In hand is an interval before which nothing is
held; what it does to the next one is seen from these two.

* `Interval.forall_proper_coalesceFrom_iff` — the walk
* `Interval.check_merge_iff` — when a merged list passes the check
* `Interval.passesIf_merge` — that a reversed interval is the only flaw there can be
* `Selection.passesIf_table` — the same of a table made from lines
-/

namespace CellWidth

namespace Interval

variable {g next i : Interval} {is : List Interval} {c : Int} {p q : Int → Prop}

/-- Some interval of the list holds `c`. -/
def Holds (is : List Interval) (c : Int) : Prop :=
  ∃ i ∈ is, c ∈ i

/-- The place of a reversed interval is filled by the code points with `p`: they reach up to where it
begins, or it ends right before it begins and they hold that place. -/
def IsFilled (p : Int → Prop) (i : Interval) : Prop :=
  p (i.first - 1) ∨ (i.last + 1 = i.first ∧ p i.first)

theorem isFilled_congr (h : p (i.first - 1) ↔ q (i.first - 1)) (h' : p i.first ↔ q i.first) :
    IsFilled p i ↔ IsFilled q i := by
  rw [IsFilled, IsFilled, h, h']

theorem holds_cons_iff : Holds (g :: is) c ↔ c ∈ g ∨ Holds is c := by
  simp only [Holds, List.mem_cons, exists_eq_or_imp]

theorem not_mem_of_reversed (h : i.last < i.first) : c ∉ i := by
  rw [mem_iff]
  omega

/-! ## The walk -/

/-- Nothing is held before the first interval begins. -/
theorem Rising.not_holds (h : Rising (g :: is)) (hc : c < g.first) : ¬Holds (g :: is) c := by
  rintro ⟨i, hi, hci⟩
  rw [mem_iff] at hci
  rcases List.mem_cons.mp hi with rfl | hi
  · omega
  · have := h.first_le i hi
    omega

/-- The end of the list: an interval on its own is not filled. -/
theorem proper_iff_alone : g.first ≤ g.last ↔ (g.last < g.first → IsFilled (Holds [g]) g) := by
  constructor
  · intro hproper hreversed
    omega
  · intro h
    refine Int.not_lt.mp fun hreversed => ?_
    have hnone : ∀ c, ¬Holds [g] c := by
      rintro c ⟨i, hi, hc⟩
      rw [List.mem_singleton.mp hi] at hc
      exact not_mem_of_reversed hreversed hc
    rcases h hreversed with hbefore | ⟨-, hplace⟩
    · exact hnone _ hbefore
    · exact hnone _ hplace

/-- A gap after the interval in hand: nothing fills its place any more. -/
theorem proper_iff_of_gap (h : Rising (g :: next :: is)) (hgap : g.last + 1 < next.first) :
    g.first ≤ g.last ↔ (g.last < g.first → IsFilled (Holds (g :: next :: is)) g) := by
  constructor
  · intro hproper hreversed
    omega
  · intro hfilled
    refine Int.not_lt.mp fun hreversed => ?_
    rcases hfilled hreversed with hbefore | ⟨hend, hplace⟩
    · exact h.not_holds (by omega) hbefore
    · rcases holds_cons_iff.mp hplace with hg | hlater
      · exact not_mem_of_reversed hreversed hg
      · exact h.tail.not_holds (by omega) hlater

/-- A gap after the interval in hand: it fills no place of the later ones. -/
theorem isFilled_iff_of_gap (h : Rising (g :: next :: is)) (hgap : g.last + 1 < next.first)
    (hi : i ∈ next :: is) :
    IsFilled (Holds (g :: next :: is)) i ↔ IsFilled (Holds (next :: is)) i := by
  have hfirst : next.first ≤ i.first := by
    rcases List.mem_cons.mp hi with rfl | hi
    · exact Int.le_refl _
    · exact h.tail.first_le i hi
  have hnot : ∀ c, next.first - 1 ≤ c → c ∉ g := by
    intro c hc hg
    rw [mem_iff] at hg
    omega
  refine isFilled_congr ?_ ?_
  · rw [holds_cons_iff, or_iff_right (hnot _ (by omega))]
  · rw [holds_cons_iff, or_iff_right (hnot _ (by omega))]

theorem holds_join_iff (h : Rising (g :: next :: is)) (htouch : next.first ≤ g.last + 1) :
    Holds (g.join next :: is) c ↔ Holds (g :: next :: is) c := by
  rw [holds_cons_iff, holds_cons_iff, holds_cons_iff,
    mem_join_iff (h.first_le next List.mem_cons_self) htouch, or_assoc]

/-- The next interval joins the one in hand: the outcome needs to be filled just where one of the two
does. -/
theorem isFilled_join_iff (h : Ordered (g :: next :: is)) (htouch : next.first ≤ g.last + 1) :
    ((g.join next).last < (g.join next).first →
        IsFilled (Holds (g :: next :: is)) (g.join next)) ↔
      (g.last < g.first → IsFilled (Holds (g :: next :: is)) g) ∧
        (next.last < next.first → IsFilled (Holds (g :: next :: is)) next) := by
  have hrise := h.rising.first_le next List.mem_cons_self
  have hle := le_iff.mp ((List.pairwise_cons.mp h).1 next List.mem_cons_self)
  rcases Int.lt_or_le g.last g.first with hreversed | hproper
  · -- Both begin where the one in hand should have ended, so the outcome is the next one.
    have hfirst : next.first = g.first := by omega
    have hjoin : g.join next = next := by
      rw [join, ← hfirst, Int.max_eq_right (by omega)]
    rw [hjoin]
    refine ⟨fun hnext => ⟨fun _ => ?_, hnext⟩, And.right⟩
    rcases Int.lt_or_le next.last next.first with hshort | hlong
    · have hlast : next.last = g.last := by omega
      have hfilled := hnext hshort
      rwa [IsFilled, hfirst, hlast] at hfilled
    · refine .inr ⟨by omega, next, by simp, ?_⟩
      rw [mem_iff]
      omega
  · -- The interval in hand is proper, so it reaches up to where a reversed one begins.
    refine iff_of_true ?_ ⟨?_, ?_⟩
    · intro hjoin
      simp only [join] at hjoin
      omega
    · intro hreversed
      omega
    · intro hreversed
      refine .inl ⟨g, List.mem_cons_self, ?_⟩
      rw [mem_iff]
      omega

/-- **What comes out of the walk is proper just where all places of reversed intervals are filled.** -/
theorem forall_proper_coalesceFrom_iff : ∀ (is : List Interval) (g : Interval), Ordered (g :: is) →
    ((∀ j ∈ coalesceFrom g is, j.first ≤ j.last) ↔
      ∀ i ∈ g :: is, i.last < i.first → IsFilled (Holds (g :: is)) i)
  | [], g, _ => by
    simp only [coalesceFrom, List.mem_singleton, forall_eq]
    exact proper_iff_alone
  | next :: is, g, h => by
    rcases Int.lt_or_le (g.last + 1) next.first with hgap | htouch
    · have hrest := forall_proper_coalesceFrom_iff is next (List.pairwise_cons.mp h).2
      rw [coalesceFrom_of_gap hgap, List.forall_mem_cons, List.forall_mem_cons, hrest,
        proper_iff_of_gap h.rising hgap]
      refine and_congr_right fun _ => forall₂_congr fun i hi => ?_
      rw [isFilled_iff_of_gap h.rising hgap hi]
    · have hsame : ∀ i, IsFilled (Holds (g.join next :: is)) i ↔
          IsFilled (Holds (g :: next :: is)) i := fun i =>
        isFilled_congr (holds_join_iff h.rising htouch) (holds_join_iff h.rising htouch)
      rw [coalesceFrom_of_touch htouch, forall_proper_coalesceFrom_iff is _ h.join]
      simp only [List.forall_mem_cons, hsame, isFilled_join_iff h htouch, and_assoc]

/-! ## The check of a merged list -/

/-- **Merging makes a proper list just where all places of reversed intervals are filled.** -/
theorem forall_proper_merge_iff (is : List Interval) :
    (∀ j ∈ merge is, j.first ≤ j.last) ↔ ∀ i ∈ is, i.last < i.first → IsFilled (Holds is) i := by
  obtain ⟨rfl, hmerge⟩ | ⟨g, rest, hperm, hordered, hmerge⟩ := merge_cases is
  · rw [hmerge]
    exact iff_of_true (List.forall_mem_nil _) (List.forall_mem_nil _)
  · have hholds : Holds (g :: rest) = Holds is := by
      funext c
      simp only [Holds, hperm.mem_iff]
    rw [hmerge, forall_proper_coalesceFrom_iff rest g hordered, hholds]
    simp only [hperm.mem_iff]

/-- **A merged list passes the check just where all places of reversed intervals are filled.** -/
theorem check_merge_iff (hne : is ≠ []) :
    Table.check (merge is).toArray = .ok (merge is).length ↔
      ∀ i ∈ is, i.last < i.first → IsFilled (Holds is) i := by
  have hpos : 0 < (merge is).toArray.size :=
    List.length_pos_iff.mpr fun hnil => hne (merge_eq_nil_iff.mp hnil)
  rw [Table.check_eq_ok_iff, ascending_merge_iff, forall_proper_merge_iff]
  exact ⟨fun h => h.2.2, fun h => ⟨rfl, hpos, h⟩⟩

/-- The intervals of a merged list are apart, so an offence can only be that one is reversed. -/
theorem exists_reversed_of_check {f : Flaw} (hne : is ≠ [])
    (h : Table.check (merge is).toArray = .error f) : ∃ k i, f = .reversed k i := by
  have hpos : 0 < (merge is).toArray.size :=
    List.length_pos_iff.mpr fun hnil => hne (merge_eq_nil_iff.mp hnil)
  obtain ⟨k, hk, hoffends, -, rfl⟩ := Table.first_offence_of_check hpos h
  have hreversed : (merge is).toArray[k].last < (merge is).toArray[k].first := by
    refine hoffends.2.resolve_right ?_
    rintro ⟨hk0, hle⟩
    have hgap := List.pairwise_iff_getElem.mp (pairwise_merge is) (k - 1) k
      (Nat.lt_of_le_of_lt (Nat.sub_le k 1) hk) hk (by omega)
    simp only [List.getElem_toArray] at hle
    omega
  rw [Table.flawAt, if_pos hreversed]
  exact ⟨k, _, rfl⟩

/-- A merged list passes the check if `p`, and otherwise has a reversed interval for its first flaw. -/
def PassesIf (is : List Interval) (p : Prop) : Prop :=
  (p → Table.check is.toArray = .ok is.length) ∧
    (¬p → ∃ k i, Table.check is.toArray = .error (.reversed k i))

/-- **A merged list passes the check if all places of reversed intervals are filled.** Otherwise it has
a reversed interval for its first flaw. -/
theorem passesIf_merge (hne : is ≠ []) :
    PassesIf (merge is) (∀ i ∈ is, i.last < i.first → IsFilled (Holds is) i) := by
  refine ⟨(check_merge_iff hne).mpr, fun hnot => ?_⟩
  cases hcheck : Table.check (merge is).toArray with
  | ok n =>
    obtain rfl := (Table.check_eq_ok_iff.mp hcheck).1
    exact absurd ((check_merge_iff hne).mp hcheck) hnot
  | error f =>
    obtain ⟨k, i, rfl⟩ := exists_reversed_of_check hne hcheck
    exact ⟨k, i, rfl⟩

end Interval

/-! ## Tables made from lines -/

namespace Generator

open DataLine CellWidth.Interval

namespace Selection

variable {sel : Selection} {lines : List (List Char)} {is : List Interval}

/-- An extra interval holds `c`, or the interval of a line with a selected value does. -/
def Holds (sel : Selection) (lines : List (List Char)) (c : Int) : Prop :=
  (∃ i ∈ sel.extra, c ∈ i) ∨ ∃ d, Given sel.values lines d ∧ c ∈ d.interval

/-- Wherever a line with a selected value states a reversed interval, its place is filled. -/
def FillsReversed (sel : Selection) (lines : List (List Char)) : Prop :=
  ∀ d, Given sel.values lines d → d.interval.last < d.interval.first →
    IsFilled (sel.Holds lines) d.interval

theorem table_of_perm {picked js : List Interval} (hpick : sel.pick lines = .ok picked)
    (hperm : (sel.extra ++ picked).Perm js) (hjs : Ordered js) :
    sel.table lines = .ok (coalesce js) :=
  table_eq_ok_iff.mpr ⟨picked, hpick, (merge_of_perm hperm hjs).symm⟩

theorem ne_nil_of_table (h : sel.table lines = .ok is) (hextra : sel.extra ≠ []) : is ≠ [] := by
  obtain ⟨picked, -, rfl⟩ := table_eq_ok_iff.mp h
  rw [Ne, merge_eq_nil_iff, List.append_eq_nil_iff]
  exact fun hnil => hextra hnil.1

/-- **A table made from lines passes the check if all places of reversed intervals are filled.** -/
theorem passesIf_table (hextra : ∀ i ∈ sel.extra, i.first ≤ i.last)
    (h : sel.table lines = .ok is) (hne : is ≠ []) : PassesIf is (sel.FillsReversed lines) := by
  obtain ⟨picked, hpick, rfl⟩ := table_eq_ok_iff.mp h
  have hholds : Interval.Holds (sel.extra ++ picked) = sel.Holds lines := by
    funext c
    simp only [Interval.Holds, Holds, List.mem_append, or_and_right, exists_or,
      exists_mem_pick_iff hpick]
  have hfills : (∀ i ∈ sel.extra ++ picked, i.last < i.first →
      IsFilled (Interval.Holds (sel.extra ++ picked)) i) ↔ sel.FillsReversed lines := by
    rw [hholds]
    constructor
    · intro hall d hd
      have hpicked := (mem_pick_iff hpick d.interval).mpr ⟨d, hd, rfl⟩
      exact hall d.interval (List.mem_append_right _ hpicked)
    · intro hall i hi hreversed
      rcases List.mem_append.mp hi with hi | hi
      · exact absurd (hextra i hi) (Int.not_le.mpr hreversed)
      · obtain ⟨d, hd, rfl⟩ := (mem_pick_iff hpick i).mp hi
        exact hall d hd hreversed
  rw [← hfills]
  exact passesIf_merge fun hnil => hne (merge_eq_nil_iff.mpr hnil)

end Selection

/-- A line with a reversed interval whose place nothing fills: what is made of it does not pass the
check, neither for the table of code points without width nor for the wide one. -/
theorem check_of_reversed_line :
    Selection.zeroWidth.table ["0005..0003 ; Mn".toList] = .ok [⟨5, 3⟩, .single 0x200B] ∧
      Table.check #[⟨5, 3⟩, .single 0x200B] = .error (.reversed 0 ⟨5, 3⟩) ∧
      Selection.wide.table ["0005..0003 ; W".toList] = .ok [⟨5, 3⟩] ∧
      Table.check #[⟨5, 3⟩] = .error (.reversed 0 ⟨5, 3⟩) := by
  have hzero : Selection.zeroWidth.pick ["0005..0003 ; Mn".toList] = .ok [⟨5, 3⟩] := rfl
  have hwide : Selection.wide.pick ["0005..0003 ; W".toList] = .ok [⟨5, 3⟩] := rfl
  have hjs : Ordered [⟨5, 3⟩, .single 0x200B] := by decide
  exact ⟨Selection.table_of_perm hzero (by decide) hjs, rfl,
    Selection.table_of_perm hwide (List.Perm.refl _) (List.pairwise_singleton _ _), rfl⟩

/-- **Which tables made from lines pass the check.** The lines may state reversed intervals. Where other
intervals fill their places, the table passes; where the place of one is not filled, the first flaw is
a reversed interval. The wide table may have no interval at all, and that is another matter. -/
theorem passesIf_tables {lines : List (List Char)} {is : List Interval} :
    (Selection.zeroWidth.table lines = .ok is →
      PassesIf is (Selection.zeroWidth.FillsReversed lines)) ∧
    (Selection.wide.table lines = .ok is → is ≠ [] →
      PassesIf is (Selection.wide.FillsReversed lines)) := by
  constructor
  · intro h
    exact Selection.passesIf_table (by decide) h (Selection.ne_nil_of_table h (by decide))
  · exact Selection.passesIf_table (by decide)

/-- A reversed interval inside a proper one. -/
def nestedLines : List (List Char) :=
  ["0310..0305 ; Me".toList, "0300..036F ; Mn".toList]

/-- A reversed interval that ends right before it begins, where a proper one begins too. -/
def emptyLines : List (List Char) :=
  ["3000..3003 ; F".toList, "3000..2FFF ; W".toList]

theorem passes_of_nestedLines_emptyLines :
    Selection.zeroWidth.table nestedLines = .ok [⟨0x300, 0x36F⟩, .single 0x200B] ∧
      Table.check #[⟨0x300, 0x36F⟩, .single 0x200B] = .ok 2 ∧
      Selection.wide.table emptyLines = .ok [⟨0x3000, 0x3003⟩] ∧
      [(⟨0x3000, 0x3003⟩ : Interval)] ≠ [] ∧ Table.check #[⟨0x3000, 0x3003⟩] = .ok 1 := by
  have hnestedOrder : Ordered [⟨0x300, 0x36F⟩, ⟨0x310, 0x305⟩, .single 0x200B] := by decide
  have hnested : Selection.zeroWidth.table nestedLines = .ok [⟨0x300, 0x36F⟩, .single 0x200B] :=
    Selection.table_of_perm rfl (by decide) hnestedOrder
  have hemptyOrder : Ordered [⟨0x3000, 0x2FFF⟩, ⟨0x3000, 0x3003⟩] := by decide
  have hempty : Selection.wide.table emptyLines = .ok [⟨0x3000, 0x3003⟩] :=
    Selection.table_of_perm rfl (by decide) hemptyOrder
  have hmarks : Given Selection.zeroWidth.values nestedLines ⟨⟨0x300, 0x36F⟩, ['M', 'n']⟩ :=
    ⟨"0300..036F ; Mn".toList, by simp [nestedLines], rfl, by decide⟩
  have hwide : Given Selection.wide.values emptyLines ⟨⟨0x3000, 0x3003⟩, ['F']⟩ :=
    ⟨"3000..3003 ; F".toList, by simp [emptyLines], rfl, by decide⟩
  have hfillsNested : Selection.zeroWidth.FillsReversed nestedLines := by
    rintro d ⟨line, hline, hd, -⟩ hreversed
    simp only [nestedLines, List.mem_cons, List.not_mem_nil, or_false] at hline
    rcases hline with rfl | rfl
    · obtain rfl := hd.unique (e := ⟨⟨0x310, 0x305⟩, ['M', 'e']⟩) rfl
      exact .inl (.inr ⟨_, hmarks, by decide⟩)
    · obtain rfl := hd.unique (e := ⟨⟨0x300, 0x36F⟩, ['M', 'n']⟩) rfl
      exact absurd hreversed (by decide)
  have hfillsEmpty : Selection.wide.FillsReversed emptyLines := by
    rintro d ⟨line, hline, hd, -⟩ hreversed
    simp only [emptyLines, List.mem_cons, List.not_mem_nil, or_false] at hline
    rcases hline with rfl | rfl
    · obtain rfl := hd.unique (e := ⟨⟨0x3000, 0x3003⟩, ['F']⟩) rfl
      exact absurd hreversed (by decide)
    · obtain rfl := hd.unique (e := ⟨⟨0x3000, 0x2FFF⟩, ['W']⟩) rfl
      exact .inr ⟨by decide, .inr ⟨_, hwide, by decide⟩⟩
  have hne : [(⟨0x3000, 0x3003⟩ : Interval)] ≠ [] := List.cons_ne_nil _ _
  exact ⟨hnested, (passesIf_tables.1 hnested).1 hfillsNested, hempty, hne,
    (passesIf_tables.2 hempty hne).1 hfillsEmpty⟩

end Generator

end CellWidth
