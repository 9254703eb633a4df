import CellWidth.Unicode.ZeroWidth

/-!
# The release

The number of this release and what it comes with. Numbers of releases are compared part by part, the
most significant first.
-/

namespace CellWidth

/-- The number of a release. -/
structure Version where
  major : Int
  minor : Int
  patch : Int
deriving DecidableEq

namespace Version

/-- The parts with a point between them. -/
def text (v : Version) : String :=
  toString v.major ++ "." ++ toString v.minor ++ "." ++ toString v.patch

/-- Which of two releases is the newer one. -/
def compare (a b : Version) : Ordering :=
  ((Ord.compare a.major b.major).then (Ord.compare a.minor b.minor)).then
    (Ord.compare a.patch b.patch)

/-- This release. -/
def current : Version := ⟨1, 0, 0⟩

end Version

/-- A description of a release. -/
structure Release where
  version : Version
  name : String
  unicodeVersion : String
  terms : String

/-- This release; a caller that needs the layout of one terminal checks the Unicode version. -/
def Release.current : Release :=
  ⟨.current, "termwidth", Unicode.version, "Public Domain"⟩

end CellWidth
