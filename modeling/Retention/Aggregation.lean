import Retention.Groups
import Retention.Resolution

/-!
# Aggregation

Grouping many instances by the root that each resolves to, as one progress run with a
step per instance. There are two forms. The sequential one stops at the first failure.
The exhaustive one, made for resolving in parallel, visits every instance whatever
happens to the others, then polls for cancellation once more, and only then reports the
failure that comes first in input order.

Its visits may be handed to several workers, who make them in any order and at the same
time. Here they are made one after another, in the order of the instances.
-/

namespace Retention.Aggregation

variable {σ : Type}

/-- Resolves one instance and reports a step for it, unless cancellation was requested. -/
def visit (host : Host σ) (limit : UInt64) (id : InstanceId) (state : σ) :
    Except Failure RootKey × σ :=
  if host.cancelled state then (.error .interrupted, state)
  else
    match Resolution.resolve host limit id state with
    | (.error failure, state) => (.error failure, state)
    | (.ok key, state) =>
        match host.step state with
        | (.error failure, state) => (.error failure, state)
        | (.ok (), state) => (.ok key, state)

/-- Ends an aggregation: a result is withheld once cancellation has been requested. -/
def conclude (host : Host σ) (result : Except Failure RootGroups) (state : σ) :
    Except Failure RootGroups × σ :=
  if host.cancelled state then (.error .interrupted, state) else (result, state)

/-- Adds instances to `groups` one at a time, up to the first failure. -/
def gather (host : Host σ) (limit : UInt64) :
    List InstanceId → RootGroups → σ → Except Failure RootGroups × σ
  | [], groups, state => conclude host (.ok groups) state
  | id :: rest, groups, state =>
      match visit host limit id state with
      | (.error failure, state) => (.error failure, state)
      | (.ok key, state) => gather host limit rest (groups.insert key id) state

/-- Groups `instances` sequentially, in a run of `expected` steps. -/
def sequential (host : Host σ) (limit : UInt64) (instances : List InstanceId)
    (expected : UInt64) (state : σ) : Except Failure RootGroups × σ :=
  host.duringRun (some expected) (gather host limit instances .empty) state

/-- What an aggregation has come to after one more instance; the first failure stays. -/
def extend (result : Except Failure RootGroups) (id : InstanceId)
    (key : Except Failure RootKey) : Except Failure RootGroups :=
  match result, key with
  | .ok groups, .ok key => .ok (groups.insert key id)
  | .ok _, .error failure => .error failure
  | .error failure, _ => .error failure

/-- Visits all instances, whatever becomes of them. -/
def gatherAll (host : Host σ) (limit : UInt64) :
    List InstanceId → Except Failure RootGroups → σ → Except Failure RootGroups × σ
  | [], result, state => conclude host result state
  | id :: rest, result, state =>
      let (key, state) := visit host limit id state
      gatherAll host limit rest (extend result id key) state

/-- Groups `instances` exhaustively, in a run of one step per instance. -/
def exhaustive (host : Host σ) (limit : UInt64) (instances : List InstanceId) (state : σ) :
    Except Failure RootGroups × σ :=
  host.duringRun (some (UInt64.ofNat instances.length))
    (gatherAll host limit instances (.ok .empty)) state

end Retention.Aggregation
