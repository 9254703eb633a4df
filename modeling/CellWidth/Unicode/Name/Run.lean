/-!
# Runs of names

Characters in a row often have names that begin alike, so what is kept of the names of a run of
characters is this: the words that all of them begin with, and then the end of each name. Whatever
character is in no name parts the ends from each other, which is why a name never holds one.
-/

namespace CellWidth.Unicode

/-- The names of the characters from `first` to `last`, in some lines of text. -/
structure NameRun where
  first : Nat
  last : Nat
  lines : List String

namespace NameRun

/-- Whether a character can be part of a name. -/
def isNameChar (c : Char) : Bool :=
  c.isUpper || c.isDigit || c == '-' || c == ' '

/-- The pieces of a text between the characters that are part of no name. -/
def pieces : List Char → List (List Char)
  | [] => [[]]
  | c :: rest =>
    if isNameChar c then
      match pieces rest with
      | [] => [[c]]
      | p :: later => (c :: p) :: later
    else [] :: pieces rest

/-- The name that begins and ends with given words, of which the first may be none. -/
def joined (head tail : List Char) : List Char :=
  if head = [] then tail else head ++ ' ' :: tail

/-- Whether a run has the name of a code point. -/
def covers (r : NameRun) (c : Nat) : Bool :=
  r.first ≤ c && c ≤ r.last

/-- What is kept of the names: the words at the beginning of all of them, and their ends. -/
def parts (r : NameRun) : List (List Char) :=
  r.lines.flatMap fun line => pieces line.toList

/-- The name of a code point that is not before the run. -/
def name? (r : NameRun) (c : Nat) : Option (List Char) :=
  match r.parts with
  | [] => none
  | head :: tails => tails[c - r.first]?.map (joined head)

theorem isNameChar_of_mem_pieces {t p : List Char} {c : Char} (hp : p ∈ pieces t) (hc : c ∈ p) :
    isNameChar c = true := by
  fun_induction pieces t generalizing p with
  | case1 => simp_all
  | case2 d rest hd hnil ih => simp_all
  | case3 d rest hd q later hq ih =>
    rcases List.mem_cons.mp hp with rfl | hp
    · rcases List.mem_cons.mp hc with rfl | hc
      · exact hd
      · exact ih (hq ▸ List.mem_cons_self) hc
    · exact ih (hq ▸ List.mem_cons_of_mem q hp) hc
  | case4 d rest hd ih =>
    rcases List.mem_cons.mp hp with rfl | hp
    · simp at hc
    · exact ih hp hc

theorem isNameChar_of_mem_parts {r : NameRun} {p : List Char} {c : Char} (hp : p ∈ r.parts)
    (hc : c ∈ p) : isNameChar c = true := by
  obtain ⟨line, _, hp⟩ := List.mem_flatMap.mp hp
  exact isNameChar_of_mem_pieces hp hc

theorem isNameChar_of_mem_name {r : NameRun} {n : Nat} {name : List Char} {c : Char}
    (hn : r.name? n = some name) (hc : c ∈ name) : isNameChar c = true := by
  unfold name? at hn
  split at hn
  · simp at hn
  · next head tails hp =>
    obtain ⟨tail, htail, rfl⟩ := Option.map_eq_some_iff.mp hn
    have head_ok : ∀ d ∈ head, isNameChar d = true := fun d hd =>
      isNameChar_of_mem_parts (hp ▸ List.mem_cons_self) hd
    have tail_ok : ∀ d ∈ tail, isNameChar d = true := fun d hd =>
      isNameChar_of_mem_parts (hp ▸ List.mem_cons_of_mem head (List.mem_of_getElem? htail)) hd
    unfold joined at hc
    split at hc
    · exact tail_ok c hc
    · rcases List.mem_append.mp hc with hc | hc
      · exact head_ok c hc
      · rcases List.mem_cons.mp hc with rfl | hc
        · rfl
        · exact tail_ok c hc

end NameRun

end CellWidth.Unicode
