import Retention.Heap
import Retention.Host
import Retention.Progress

/-!
# Monitored hosts

A host that watches over the analyses it serves: it counts what they ask for, keeps a
log of the progress runs they set up and finish, and can cancel an analysis at a given
lookup or step.
-/

namespace Retention

/-- A call on a progress sink, other than a step. -/
inductive SinkCall where
  /-- A run of known length was set up, or refused. -/
  | setupKnown (total : UInt64)
  /-- A run of unknown length was set up, or refused. -/
  | setupUnknown
  /-- The run was finished after so many accepted steps. -/
  | finish (steps : Nat)
deriving DecidableEq, Repr

/-- What a monitored host is to do of its own accord. -/
structure HostPlan where
  /-- The failure of every preparation, if there is to be one. -/
  prepareFailure : Option Failure
  /-- The lookup at whose start cancellation is requested, counted from one. -/
  cancelAtLookup : Option Nat
deriving Repr

/-- The plan of a host that does nothing of its own accord. -/
def HostPlan.plain : HostPlan :=
  ⟨none, none⟩

/-- What the progress sink of a monitored host is to do. -/
structure SinkPlan where
  /-- Whether progress goes on to the tracker, which may refuse it. -/
  tracked : Bool
  /-- The accepted step after which cancellation is requested, counted from one. -/
  cancelAtStep : Option Nat
  /-- The accepted step after which the tracker is told to finish, counted from one. -/
  finishAtStep : Option Nat
deriving Repr

/-- What a monitored host remembers. -/
structure Monitor where
  tracker : Progress
  cancelled : Bool
  prepares : Nat
  lookups : Nat
  scans : Nat
  /-- The accepted steps of the analysis under way. -/
  steps : Nat
  /-- The sink calls of the analysis under way, latest first. -/
  log : List SinkCall
deriving Repr

namespace Monitor

def fresh : Monitor where
  tracker := .unstarted
  cancelled := false
  prepares := 0
  lookups := 0
  scans := 0
  steps := 0
  log := []

/-- A monitor whose host calls are counted anew. -/
def resetCounts (monitor : Monitor) : Monitor :=
  { monitor with prepares := 0, lookups := 0, scans := 0 }

def beginAnalysis (monitor : Monitor) : Monitor :=
  { monitor with steps := 0, log := [] }

/-- Counts a lookup, which may be the one that cancels. -/
def countLookup (plan : HostPlan) (monitor : Monitor) : Monitor :=
  let lookups := monitor.lookups + 1
  { monitor with
    lookups := lookups
    cancelled := monitor.cancelled || plan.cancelAtLookup == some lookups }

/-- Notes a setup and passes it on to the tracker, unless progress is not tracked. -/
def setup (plan : SinkPlan) (total : Option UInt64) (monitor : Monitor) :
    Except Failure Unit × Monitor :=
  let call :=
    match total with
    | some total => .setupKnown total
    | none => .setupUnknown
  let monitor := { monitor with log := call :: monitor.log }
  if plan.tracked then
    let (result, tracker) := monitor.tracker.setup total
    (result, { monitor with tracker := tracker })
  else (.ok (), monitor)

/-- Counts an accepted step, which may be one that cancels or that ends the run. -/
def acceptStep (plan : SinkPlan) (monitor : Monitor) : Monitor :=
  let steps := monitor.steps + 1
  { monitor with
    steps := steps
    cancelled := monitor.cancelled || plan.cancelAtStep == some steps
    tracker :=
      if plan.finishAtStep == some steps then monitor.tracker.finish else monitor.tracker }

/-- Passes a step on to the tracker, unless progress is not tracked. -/
def step (plan : SinkPlan) (monitor : Monitor) : Except Failure Unit × Monitor :=
  if plan.tracked then
    match monitor.tracker.step with
    | (.error failure, tracker) => (.error failure, { monitor with tracker := tracker })
    | (.ok (), tracker) => (.ok (), { monitor with tracker := tracker }.acceptStep plan)
  else (.ok (), monitor.acceptStep plan)

/-- Notes the end of a run and passes it on to the tracker, unless progress is not
tracked. -/
def finish (plan : SinkPlan) (monitor : Monitor) : Monitor :=
  { monitor with
    log := .finish monitor.steps :: monitor.log
    tracker := if plan.tracked then monitor.tracker.finish else monitor.tracker }

/-- The host that counts and may fail or cancel as planned. -/
def host (heap : HeapView) (plan : HostPlan) (sink : SinkPlan) : Host Monitor where
  prepare monitor :=
    (match plan.prepareFailure with
      | some failure => .error failure
      | none => .ok (),
      { monitor with prepares := monitor.prepares + 1 })
  pointer id monitor := (heap.pointer id, monitor.countLookup plan)
  references id monitor := (heap.references id, { monitor with scans := monitor.scans + 1 })
  cancelled := Monitor.cancelled
  setup := Monitor.setup sink
  step := Monitor.step sink
  finish := Monitor.finish sink

/-- The host that leaves the heap unwatched and only monitors progress. -/
def bareHost (heap : HeapView) (sink : SinkPlan) : Host Monitor where
  prepare monitor := (.ok (), monitor)
  pointer id monitor := (heap.pointer id, monitor)
  references id monitor := (heap.references id, monitor)
  cancelled := Monitor.cancelled
  setup := Monitor.setup sink
  step := Monitor.step sink
  finish := Monitor.finish sink

end Monitor

end Retention
