import Retention.Binary64
import Retention.Failure

/-!
# Progress of a run

A tracker goes from unstarted to stepping to finished, and from finished to stepping
again for the next run. Steps count only while stepping, a run cannot be set up inside
another, and finishing is harmless at any time.
-/

namespace Retention

/-- Where a tracker stands in its life. -/
inductive ProgressState where
  /-- No run has been set up. -/
  | unstarted
  /-- A run is in progress. -/
  | stepping
  /-- The last run has finished. -/
  | finished
deriving DecidableEq, Inhabited, Repr

def ProgressState.label : ProgressState → String
  | .unstarted => "unstarted"
  | .stepping => "stepping"
  | .finished => "finished"

/-- The state of a tracker together with the counters of its current or last run. -/
structure Progress where
  state : ProgressState
  stepsDone : UInt64
  /-- The expected number of steps, if the length of the run is known. -/
  total : Option UInt64
deriving DecidableEq, Repr

namespace Progress

def unstarted : Progress :=
  ⟨.unstarted, 0, none⟩

instance : Inhabited Progress :=
  ⟨unstarted⟩

/-- The greatest number of steps that a run can be set up with. -/
def maxTotal : UInt64 :=
  18446744073709551614

/-- Starts a run of known or unknown length with fresh counters, unless one is already
in progress. A known length above `maxTotal` counts as `maxTotal`. -/
def setup (total : Option UInt64) (progress : Progress) : Except Failure Unit × Progress :=
  match progress.state with
  | .stepping => (.error (.invalidProgress "setup" progress.state.label), progress)
  | _ => (.ok (), ⟨.stepping, 0, total.map (min · maxTotal)⟩)

def step (progress : Progress) : Except Failure Unit × Progress :=
  match progress.state with
  | .stepping => (.ok (), { progress with stepsDone := progress.stepsDone + 1 })
  | _ => (.error (.invalidProgress "step" progress.state.label), progress)

/-- Ends the run in progress, if there is one. The counters stay readable. -/
def finish (progress : Progress) : Progress :=
  match progress.state with
  | .stepping => { progress with state := .finished }
  | _ => progress

/-- The part of a run that is done, between zero and one, if its length is known. An
empty run is done from the start, and a run that overshoots counts as done. -/
def fraction (progress : Progress) : Option Binary64 :=
  progress.total.map fun total =>
    if total = 0 then Binary64.one
    else
      ((Binary64.ofNat progress.stepsDone.toNat).div (Binary64.ofNat total.toNat)).minNonneg
        Binary64.one

end Progress

end Retention
