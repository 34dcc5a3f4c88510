import Retention.Analyzer
import Retention.Heap.Memory
import Retention.Monitor

/-!
# Sessions

A session is a heap under construction together with the analyses made of it. It
remembers the settings, the host's monitor and the last results, so that a result can be
looked into, paged and expanded afterwards. A failed analysis leaves the last results as
they were.
-/

namespace Retention

/-- A heap, the way it is analyzed, and what came of it last. -/
structure Session where
  heap : MemoryHeap
  savedHeap : MemoryHeap
  settings : Settings
  plan : HostPlan
  monitor : Monitor
  groups : RootGroups
  outcome : PathOutcome

namespace Session

variable {α : Type}

def start (settings : Settings) : Session where
  heap := .empty
  savedHeap := .empty
  settings := settings
  plan := .plain
  monitor := .fresh
  groups := .empty
  outcome := .noRoot

/-! ## State -/

def build (session : Session) (change : MemoryHeap → MemoryHeap) : Session :=
  { session with heap := change session.heap }

def saveHeap (session : Session) : Session :=
  { session with savedHeap := session.heap }

/-- Exchanges the heap and the saved heap. -/
def swapHeap (session : Session) : Session :=
  { session with heap := session.savedHeap, savedHeap := session.heap }

/-- Sets what the host does of its own accord, and starts its counts anew. -/
def setPlan (session : Session) (plan : HostPlan) : Session :=
  { session with plan := plan, monitor := session.monitor.resetCounts }

/-- Requests cancellation, or withdraws the request. -/
def setCancelled (session : Session) (cancelled : Bool) : Session :=
  { session with monitor := { session.monitor with cancelled := cancelled } }

def check (session : Session) : Except Failure Unit :=
  if session.monitor.cancelled then .error .interrupted else .ok ()

def setTracker (session : Session) (tracker : Progress) : Session :=
  { session with monitor := { session.monitor with tracker := tracker } }

/-- Takes the given number of steps on the tracker, up to the first that is refused. -/
def stepTracker : Nat → Progress → Except Failure Unit × Progress
  | 0, tracker => (.ok (), tracker)
  | times + 1, tracker =>
      match tracker.step with
      | (.error failure, tracker) => (.error failure, tracker)
      | (.ok (), tracker) => stepTracker times tracker

def setOutcome (session : Session) (outcome : PathOutcome) : Session :=
  { session with outcome := outcome }

def setGroups (session : Session) (groups : RootGroups) : Session :=
  { session with groups := groups }

/-! ## Analyses -/

/-- Runs an analysis, for which the settings have to be usable. -/
def analyze (session : Session)
    (analysis : Analyzer → Monitor → Except Failure α × Monitor) :
    Except Failure α × Session :=
  let monitor := session.monitor.beginAnalysis
  match Analyzer.ofSettings session.settings with
  | .error failure => (.error failure, { session with monitor := monitor })
  | .ok analyzer =>
      let (result, monitor) := analysis analyzer monitor
      (result, { session with monitor := monitor })

/-- The host of the session's heap. -/
def host (session : Session) (sink : SinkPlan) : Host Monitor :=
  Monitor.host session.heap.view session.plan sink

/-- The unwatched host of the session's heap. -/
def bareHost (session : Session) (sink : SinkPlan) : Host Monitor :=
  Monitor.bareHost session.heap.view sink

def keepOutcome : Except Failure PathOutcome × Session → Except Failure PathOutcome × Session
  | (.ok outcome, session) => (.ok outcome, session.setOutcome outcome)
  | (.error failure, session) => (.error failure, session)

def keepGroups : Except Failure RootGroups × Session → Except Failure RootGroups × Session
  | (.ok groups, session) => (.ok groups, session.setGroups groups)
  | (.error failure, session) => (.error failure, session)

def buildPath (session : Session) (sink : SinkPlan) (id : InstanceId) :
    Except Failure PathOutcome × Session :=
  keepOutcome (session.analyze fun analyzer => analyzer.buildPath (session.host sink) id)

/-- Builds the path of an instance under a policy of its own, on the unwatched heap. -/
def buildPathUnder (session : Session) (sink : SinkPlan) (policy : MissingEdgePolicy)
    (id : InstanceId) : Except Failure PathOutcome × Session :=
  keepOutcome (session.analyze fun _ => Path.build (session.bareHost sink) policy id)

def memberPath (session : Session) (sink : SinkPlan) (group : RootGroup) (index : Nat) :
    Except Failure PathOutcome × Session :=
  keepOutcome (session.analyze fun analyzer =>
    analyzer.memberPath (session.host sink) group index)

/-- Resolves an instance within the configured hop budget. -/
def resolve (session : Session) (sink : SinkPlan) (id : InstanceId) :
    Except Failure RootKey × Session :=
  session.analyze fun analyzer => analyzer.resolveRoot (session.host sink) id

/-- Resolves an instance within a hop budget of its own, on the unwatched heap. -/
def resolveWithin (session : Session) (sink : SinkPlan) (limit : UInt64) (id : InstanceId) :
    Except Failure RootKey × Session :=
  session.analyze fun _ => Resolution.resolve (session.bareHost sink) limit id

def aggregate (session : Session) (sink : SinkPlan) (instances : List InstanceId)
    (expected : UInt64) : Except Failure RootGroups × Session :=
  keepGroups (session.analyze fun analyzer =>
    analyzer.aggregate (session.host sink) instances expected)

/-- Aggregates instances sequentially within a hop budget of its own, on the unwatched
heap. -/
def aggregateWithin (session : Session) (sink : SinkPlan) (limit : UInt64)
    (instances : List InstanceId) (expected : UInt64) : Except Failure RootGroups × Session :=
  keepGroups (session.analyze fun _ =>
    Aggregation.sequential (session.bareHost sink) limit instances expected)

/-- Aggregates instances exhaustively within a hop budget of its own, on the unwatched
heap. -/
def aggregateAllWithin (session : Session) (sink : SinkPlan) (limit : UInt64)
    (instances : List InstanceId) : Except Failure RootGroups × Session :=
  keepGroups (session.analyze fun _ =>
    Aggregation.exhaustive (session.bareHost sink) limit instances)

def analyzeInstance (session : Session) (sink : SinkPlan) (id : InstanceId) :
    Except Failure Report × Session :=
  session.analyze fun analyzer => analyzer.analyzeInstance (session.host sink) id

def analyzeInstances (session : Session) (sink : SinkPlan) (instances : List InstanceId)
    (expected : UInt64) : Except Failure Report × Session :=
  session.analyze fun analyzer =>
    analyzer.analyzeInstances (session.host sink) instances expected

/-- Looks at the last results through an analyzer. -/
def consult (session : Session) (view : Analyzer → α) : Except Failure α × Session :=
  session.analyze fun analyzer monitor => (.ok (view analyzer), monitor)

end Session

end Retention
