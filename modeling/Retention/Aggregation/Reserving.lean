import Retention.Analyzer
import Retention.Proofs.Tally

/-!
# Aggregation that asks for room

The bookkeeping of an aggregation grows with its input, so room for it is asked for before it is
used. A request that is refused ends the aggregation with a failure that names the purpose, and the
groups made by then are lost with it. Memory belongs to the surroundings: what it grants may depend
on all that has happened, and a request may change it. One allocation goes without a request: room
for instances is only asked for as many as are expected, and if more come, they are set aside all
the same. What happens when there is no room for those is not described here.
-/

namespace Retention

/-- Bookkeeping that room is asked for. -/
inductive Bookkeeping where
  /-- All instances, set aside before any is resolved. -/
  | instances (expected : UInt64)
  /-- What each of so many instances resolves to. -/
  | keys (count : Nat)
  /-- One more group. -/
  | group
  /-- One more entry of the index of groups. -/
  | place
  /-- One more member of a group. -/
  | member
deriving DecidableEq, Repr

/-- What the room is for, as a failure names it. -/
def Bookkeeping.purpose : Bookkeeping → String
  | .instances _ => "collecting instances to aggregate"
  | .keys _ => "resolving GC roots"
  | .group => "creating a root group"
  | .place => "indexing root groups"
  | .member => "recording root group members"

/-- The memory of surroundings whose state has type `σ`. -/
structure Memory (σ : Type) where
  /-- Whether there is room for some bookkeeping. -/
  grants : Bookkeeping → σ → Bool × σ

variable {σ : Type}

namespace Memory

/-- A memory that has room for everything. -/
def ample : Memory σ where
  grants _ state := (true, state)

/-- Asks for room. -/
def reserve (memory : Memory σ) (bookkeeping : Bookkeeping) (state : σ) :
    Except Failure Unit × σ :=
  match memory.grants bookkeeping state with
  | (true, state) => (.ok (), state)
  | (false, state) => (.error (.outOfMemory bookkeeping.purpose), state)

/-- Asks for room for the expected number of instances. More than can ever be set aside are refused
without asking. -/
def reserveInstances (memory : Memory σ) (expected : UInt64) (state : σ) :
    Except Failure Unit × σ :=
  match Analyzer.reserve expected with
  | .error failure => (.error failure, state)
  | .ok () => memory.reserve (.instances expected) state

end Memory

namespace RootGroups

/-- Opens a group without members for a new key, as the last one. -/
def openReserving (memory : Memory σ) (partition : RootGroups) (key : RootKey) (state : σ) :
    Except Failure RootGroups × σ :=
  match memory.reserve .group state with
  | (.error failure, state) => (.error failure, state)
  | (.ok (), state) =>
      match memory.reserve .place state with
      | (.error failure, state) => (.error failure, state)
      | (.ok (), state) =>
          (.ok
            { groups := partition.groups.push ⟨key, #[]⟩
              index := partition.index.insert key partition.groups.size }, state)

/-- Finds the place of a key, for which a group is opened if there is none. -/
def placeReserving (memory : Memory σ) (partition : RootGroups) (key : RootKey) (state : σ) :
    Except Failure (RootGroups × Nat) × σ :=
  match partition.index[key]? with
  | some place => (.ok (partition, place), state)
  | none =>
      match partition.openReserving memory key state with
      | (.error failure, state) => (.error failure, state)
      | (.ok opened, state) => (.ok (opened, partition.groups.size), state)

/-- Adds an instance under a key. -/
def insertReserving (memory : Memory σ) (partition : RootGroups) (key : RootKey)
    (id : InstanceId) (state : σ) : Except Failure RootGroups × σ :=
  match partition.placeReserving memory key state with
  | (.error failure, state) => (.error failure, state)
  | (.ok (partition, place), state) =>
      match memory.reserve .member state with
      | (.error failure, state) => (.error failure, state)
      | (.ok (), state) =>
          (.ok
            { partition with
              groups := partition.groups.modify place fun group =>
                { group with members := group.members.push id } }, state)

end RootGroups

namespace Aggregation

/-- Adds instances to `groups` one at a time, up to the first failure. A step is reported for an
instance once it has been added. -/
def gatherReserving (memory : Memory σ) (host : Host σ) (limit : UInt64) :
    List InstanceId → RootGroups → σ → Except Failure RootGroups × σ
  | [], groups, state => conclude host (.ok groups) state
  | id :: rest, groups, state =>
      if host.cancelled state then (.error .interrupted, state)
      else
        match Resolution.resolve host limit id state with
        | (.error failure, state) => (.error failure, state)
        | (.ok key, state) =>
            match groups.insertReserving memory key id state with
            | (.error failure, state) => (.error failure, state)
            | (.ok groups, state) =>
                match host.step state with
                | (.error failure, state) => (.error failure, state)
                | (.ok (), state) => gatherReserving memory host limit rest groups state

/-- Groups `instances` sequentially, in a run of `expected` steps. -/
def sequentialReserving (memory : Memory σ) (host : Host σ) (limit : UInt64)
    (instances : List InstanceId) (expected : UInt64) (state : σ) :
    Except Failure RootGroups × σ :=
  host.duringRun (some expected) (gatherReserving memory host limit instances .empty) state

/-- Adds up visits, to the first that failed or that there is no room for. -/
def tallyReserving (memory : Memory σ) :
    List (InstanceId × Except Failure RootKey) → RootGroups → σ → Except Failure RootGroups × σ
  | [], groups, state => (.ok groups, state)
  | (_, .error failure) :: _, _, state => (.error failure, state)
  | (id, .ok key) :: visits, groups, state =>
      match groups.insertReserving memory key id state with
      | (.error failure, state) => (.error failure, state)
      | (.ok groups, state) => tallyReserving memory visits groups state

/-- Visits all instances, polls, and then adds up what the visits came to. -/
def gatherAllReserving (memory : Memory σ) (host : Host σ) (limit : UInt64)
    (instances : List InstanceId) (state : σ) : Except Failure RootGroups × σ :=
  match memory.reserve (.keys instances.length) state with
  | (.error failure, state) => (.error failure, state)
  | (.ok (), state) =>
      let (visits, state) := visitAll host limit instances state
      if host.cancelled state then (.error .interrupted, state)
      else tallyReserving memory visits .empty state

/-- Groups `instances` exhaustively, in a run of one step per instance. -/
def exhaustiveReserving (memory : Memory σ) (host : Host σ) (limit : UInt64)
    (instances : List InstanceId) (state : σ) : Except Failure RootGroups × σ :=
  host.duringRun (some (UInt64.ofNat instances.length))
    (gatherAllReserving memory host limit instances) state

end Aggregation

namespace Analyzer

/-- Groups instances by root, once the host's pointers are ready. -/
def aggregateReserving (analyzer : Analyzer) (memory : Memory σ) (host : Host σ)
    (instances : List InstanceId) (expected : UInt64) (state : σ) :
    Except Failure RootGroups × σ :=
  let limit := analyzer.settings.maxRootDistance
  match host.prepare state with
  | (.error failure, state) => (.error failure, state)
  | (.ok (), state) =>
      if analyzer.settings.parallelAggregation then
        match memory.reserveInstances expected state with
        | (.error failure, state) => (.error failure, state)
        | (.ok (), state) =>
            Aggregation.exhaustiveReserving memory host limit instances state
      else Aggregation.sequentialReserving memory host limit instances expected state

def analyzeInstancesReserving (analyzer : Analyzer) (memory : Memory σ) (host : Host σ)
    (instances : List InstanceId) (expected : UInt64) (state : σ) : Except Failure Report × σ :=
  let (result, state) := analyzer.aggregateReserving memory host instances expected state
  (reportOf result, state)

end Analyzer

end Retention
