import Retention.Chain
import Retention.Host
import Retention.Settings
import Retention.Visited

/-!
# Paths

The path from one instance to its nearest root follows the pointers hop by hop. At each
hop the references of the current instance are scanned for the one that leads on; its
edge labels the step. The walk ends at the first instance that points to itself.

A walk never enters an instance twice, so it ends without a hop budget: the room left in
the set of visited instances shrinks with every hop.
-/

namespace Retention.Path

variable {σ : Type}

/-- The hop from `source` to `target`, given the references of `source`. Without a
matching reference the policy decides between skipping the hop and failing. -/
def hop (policy : MissingEdgePolicy) (source target : InstanceId)
    (references : List Reference) : Except Failure Hop :=
  match Reference.firstTo target references with
  | some edge => .ok (.found ⟨source, target, edge⟩)
  | none =>
      match policy with
      | .skip => .ok (.skipped ⟨source, target⟩)
      | .fail => .error (.inconsistent (.missingEdge source target))

/-- Walks on from `current`, whose pointer leads to `next`. `visited` holds the instances
up to `current`, and `hops` the hops so far, latest first.

Each round polls for cancellation, ends at a root, scans for the reference, refuses to
enter an instance twice, looks up the next pointer and reports a step, in this order. -/
def walk (host : Host σ) (policy : MissingEdgePolicy) (start : InstanceId)
    (visited : Visited) (hops : List Hop) (current next : InstanceId) (state : σ) :
    Except Failure PathOutcome × σ :=
  if host.cancelled state then (.error .interrupted, state)
  else if current = next then
    (.ok (.chain (RootChain.ofHops start current hops.reverse)), state)
  else
    let (references, state) := host.references current state
    match hop policy current next references with
    | .error failure => (.error failure, state)
    | .ok taken =>
        -- An instance that comes up again is not looked up again.
        if _hfresh : visited.contains next = false then
          match host.pointer next state with
          | (none, state) => (.error (.inconsistent (.danglingPointer start next)), state)
          | (some after, state) =>
              match host.step state with
              | (.error failure, state) => (.error failure, state)
              | (.ok (), state) =>
                  walk host policy start (visited.insert next) (taken :: hops) next after state
        else (.error (.inconsistent (.pointerCycle start next)), state)
-- Every round enters a fresh instance, and there are only finitely many.
termination_by visited.room
decreasing_by exact Visited.room_insert_lt ‹_›

/-- Builds the path from `start` to its nearest root. The first lookup alone settles
whether there is a path at all; only a walk reports progress, as a run of unknown
length. -/
def build (host : Host σ) (policy : MissingEdgePolicy) (start : InstanceId) (state : σ) :
    Except Failure PathOutcome × σ :=
  match host.pointer start state with
  | (none, state) => (.ok .noRoot, state)
  | (some next, state) =>
      if next = start then (.ok .isRoot, state)
      else
        host.duringRun none
          (walk host policy start ((∅ : Visited).insert start) [] start next) state

end Retention.Path
