import CellWidth.Interval

/-!
# Merging intervals

`merge` sorts a list of intervals and joins those that overlap or touch, so that the result holds the
same code points in ascending intervals with a gap between any two.
-/

namespace CellWidth

namespace Interval

/-- Walks over intervals in ascending order with the one that is still growing in hand. The next
interval joins it unless a code point lies between them. -/
def coalesceFrom (grown : Interval) : List Interval → List Interval
  | [] => [grown]
  | next :: rest =>
    if next.first ≤ grown.last + 1 then
      coalesceFrom ⟨grown.first, max grown.last next.last⟩ rest
    else grown :: coalesceFrom next rest

/-- Joins the overlapping and touching neighbours of a list in ascending order. -/
def coalesce : List Interval → List Interval
  | [] => []
  | i :: rest => coalesceFrom i rest

/-- Sorts intervals and joins those that overlap or touch. -/
def merge (is : List Interval) : List Interval :=
  coalesce (is.mergeSort le)

end Interval

end CellWidth
