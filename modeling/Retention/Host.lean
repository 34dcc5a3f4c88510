import Retention.Failure
import Retention.Heap

/-!
# Hosts

An analysis does not own what it works with. It asks a host for pointers and references,
reports progress to it, and polls it for cancellation. Any of these calls may change the
host's state, for instance when a lookup cancels the analysis or a step makes the next
one fail, so each of them passes a state along; an analysis is then an ordinary function
from a state to a result and a state, and what it did can be read off its last state.
-/

namespace Retention

/-- What an analysis asks of its surroundings, whose state has type `σ`. -/
structure Host (σ : Type) where
  /-- Makes the nearest-root pointers ready; called once before an analysis. -/
  prepare : σ → Except Failure Unit × σ
  /-- Looks up the nearest-root pointer of an instance. -/
  pointer : InstanceId → σ → Option InstanceId × σ
  /-- Scans the references of an instance. -/
  references : InstanceId → σ → List Reference × σ
  /-- Whether cancellation has been requested. -/
  cancelled : σ → Bool
  /-- Sets up a progress run whose length is known or not. -/
  setup : Option UInt64 → σ → Except Failure Unit × σ
  /-- Reports one completed step. -/
  step : σ → Except Failure Unit × σ
  /-- Ends the progress run. -/
  finish : σ → σ

namespace Host

variable {σ α : Type}

/-- The host of a bare heap: it is never cancelled and takes no notice of progress. -/
def quiet (heap : HeapView) : Host Unit where
  prepare state := (.ok (), state)
  pointer id state := (heap.pointer id, state)
  references id state := (heap.references id, state)
  cancelled _ := false
  setup _ state := (.ok (), state)
  step state := (.ok (), state)
  finish state := state

/-- Runs `body` inside one progress run. A refused setup ends the whole run at once; an
accepted one is finished whatever comes of the body. -/
def duringRun (host : Host σ) (length : Option UInt64)
    (body : σ → Except Failure α × σ) (state : σ) : Except Failure α × σ :=
  match host.setup length state with
  | (.error failure, state) => (.error failure, state)
  | (.ok (), state) =>
      let (result, state) := body state
      (result, host.finish state)

end Host

end Retention
