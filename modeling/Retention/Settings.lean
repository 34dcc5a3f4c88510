import Retention.Failure

/-!
# Settings

The five settings of an analysis, their defaults, and the two that have a least value.
Settings may be put together freely; only checked ones drive an analysis.
-/

namespace Retention

/-- What to do about a hop for which the heap shows no reference. -/
inductive MissingEdgePolicy where
  /-- Record the hop as skipped and walk on. -/
  | skip
  /-- Stop with an inconsistency. -/
  | fail
deriving DecidableEq, Inhabited, Repr

/-- How a collection too large for one page is presented. -/
inductive OverflowMode where
  /-- The first page and the number of items left out. -/
  | truncate
  /-- A sample page and windows covering everything. -/
  | windows
deriving DecidableEq, Repr

instance : Inhabited OverflowMode :=
  ⟨.windows⟩

/-- The settings of an analysis. -/
structure Settings where
  /-- The largest collection shown on one page. -/
  maxPageNodes : UInt64
  missingEdge : MissingEdgePolicy
  overflow : OverflowMode
  /-- The hop budget for finding the root of one instance. -/
  maxRootDistance : UInt64
  /-- Whether aggregation resolves all instances before it looks at failures. -/
  parallelAggregation : Bool
deriving DecidableEq, Repr

namespace Settings

def default : Settings where
  maxPageNodes := 1000
  missingEdge := .skip
  overflow := .windows
  maxRootDistance := 1000000
  parallelAggregation := false

instance : Inhabited Settings :=
  ⟨default⟩

/-- What is wrong with settings, the page size being looked at first. -/
def problem? (settings : Settings) : Option ConfigProblem :=
  if settings.maxPageNodes = 0 then some .zeroPageSize
  else if settings.maxRootDistance = 0 then some .zeroRootDistance
  else none

def validate (settings : Settings) : Except Failure Unit :=
  match settings.problem? with
  | some problem => .error (.config problem)
  | none => .ok ()

end Settings

end Retention
