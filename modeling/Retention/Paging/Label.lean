/-!
# Labels of paged collections

What a viewer writes where items of a collection are not shown themselves.
-/

namespace Retention.Paging

/-- What the items of a collection are. -/
inductive Noun where
  | gcRoots
  | instances
  | steps
deriving DecidableEq, Inhabited, Repr

def Noun.plural : Noun → String
  | .gcRoots => "GC roots"
  | .instances => "instances"
  | .steps => "steps"

/-- Stands for the items that a truncated presentation leaves out. -/
structure MoreMarker where
  remaining : Nat
  noun : Noun
deriving DecidableEq, Repr

def MoreMarker.label (marker : MoreMarker) : String :=
  "<another " ++ marker.remaining.repr ++ " " ++ marker.noun.plural ++ " left>"

/-- Heads the sample page of a windowed presentation. -/
structure SampleMarker where
  count : Nat
  noun : Noun
deriving DecidableEq, Repr

def SampleMarker.label (marker : SampleMarker) : String :=
  "<sample " ++ marker.count.repr ++ " " ++ marker.noun.plural ++ ">"

/-- A range of positions, from `start` up to but not including `stop`. -/
structure Window where
  start : Nat
  stop : Nat
  noun : Noun
deriving DecidableEq, Repr

namespace Window

def length (window : Window) : Nat :=
  window.stop - window.start

def isEmpty (window : Window) : Bool :=
  window.start = window.stop

/-- Windows are labelled with the positions of their first and last item, counted from
one. -/
def label (window : Window) : String :=
  "<" ++ window.noun.plural ++ " " ++ (window.start + 1).repr ++ "-" ++ window.stop.repr ++ ">"

end Window

end Retention.Paging
