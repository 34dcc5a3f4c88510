import Retention.Aggregation
import Retention.Paging
import Retention.Path
import Retention.Report

/-!
# The analyzer

The operations a heap viewer needs, under one set of checked settings: paths of single
instances, aggregation of many, reports of either, and pagers over the results.
-/

namespace Retention

/-- An analysis configured by settings that are known to be usable. -/
structure Analyzer where
  settings : Settings
  usable : settings.problem? = none

namespace Analyzer

variable {σ : Type}

/-- An analyzer for the given settings, if they are usable. -/
def ofSettings (settings : Settings) : Except Failure Analyzer :=
  match husable : settings.problem? with
  | some problem => .error (.config problem)
  | none => .ok ⟨settings, husable⟩

def default : Analyzer :=
  ⟨Settings.default, by decide⟩

/-! ## Paths -/

/-- Builds the path from an instance to its nearest root, once the host's pointers are
ready. -/
def buildPath (analyzer : Analyzer) (host : Host σ) (id : InstanceId) (state : σ) :
    Except Failure PathOutcome × σ :=
  match host.prepare state with
  | (.error failure, state) => (.error failure, state)
  | (.ok (), state) => Path.build host analyzer.settings.missingEdge id state

/-- Builds the path of the member at `index` of a group. A member of the unreachable
bucket has no path, and the host is not asked for one. -/
def memberPath (analyzer : Analyzer) (host : Host σ) (group : RootGroup) (index : Nat)
    (state : σ) : Except Failure PathOutcome × σ :=
  match group.members[index]? with
  | none => (.error (.config (.memberOutOfRange index group.count)), state)
  | some member =>
      if group.isExpandable then analyzer.buildPath host member state
      else (.ok .noRoot, state)

/-! ## Aggregation -/

/-- Finds the root of one instance within the configured hop budget. -/
def resolveRoot (analyzer : Analyzer) (host : Host σ) (id : InstanceId) (state : σ) :
    Except Failure RootKey × σ :=
  Resolution.resolve host analyzer.settings.maxRootDistance id state

/-- The most instances that room can be set aside for: what fits into half of the
address space at eight bytes each. -/
def maxReserved : Nat :=
  (UInt64.size / 2 - 1) / 8

/-- Sets aside room for the expected number of instances. -/
def reserve (expected : UInt64) : Except Failure Unit :=
  if expected.toNat ≤ maxReserved then .ok ()
  else .error (.outOfMemory "collecting instances to aggregate")

/-- Groups instances by root, once the host's pointers are ready. The sequential form
takes the expected number for the length of its run; the exhaustive one first sets aside
room for that many instances. -/
def aggregate (analyzer : Analyzer) (host : Host σ) (instances : List InstanceId)
    (expected : UInt64) (state : σ) : Except Failure RootGroups × σ :=
  let limit := analyzer.settings.maxRootDistance
  match host.prepare state with
  | (.error failure, state) => (.error failure, state)
  | (.ok (), state) =>
      if analyzer.settings.parallelAggregation then
        match reserve expected with
        | .error failure => (.error failure, state)
        | .ok () => Aggregation.exhaustive host limit instances state
      else Aggregation.sequential host limit instances expected state

/-! ## Reports -/

def analyzeInstance (analyzer : Analyzer) (host : Host σ) (id : InstanceId) (state : σ) :
    Except Failure Report × σ :=
  let (result, state) := analyzer.buildPath host id state
  (result.map Report.ofOutcome, state)

/-- The report of an aggregation, to which running out of memory is a report as well. -/
def reportOf : Except Failure RootGroups → Except Failure Report
  | .ok groups => .ok (.ofGroups groups)
  | .error (.outOfMemory _) => .ok .outOfMemory
  | .error failure => .error failure

def analyzeInstances (analyzer : Analyzer) (host : Host σ) (instances : List InstanceId)
    (expected : UInt64) (state : σ) : Except Failure Report × σ :=
  let (result, state) := analyzer.aggregate host instances expected state
  (reportOf result, state)

/-! ## Paging -/

/-- A pager over groups, the largest first and equally large ones in first-seen order. -/
def groupPager (analyzer : Analyzer) (groups : RootGroups) : Paging.Pager RootGroup :=
  ((Paging.Pager.ofList groups.groups.toList .gcRoots).withSettings analyzer.settings).sortedBy
    fun a b => compare b.count a.count

/-- A pager over the members of a group, in the order of aggregation. -/
def memberPager (analyzer : Analyzer) (group : RootGroup) : Paging.Pager InstanceId :=
  (Paging.Pager.ofList group.members.toList .instances).withSettings analyzer.settings

/-- A pager over the steps of a chain, from the start toward the root. -/
def chainPager (analyzer : Analyzer) (chain : RootChain) : Paging.Pager ChainStep :=
  (Paging.Pager.ofList chain.steps .steps).withSettings analyzer.settings

end Analyzer

end Retention
