import Retention.RootKey
import Std.Data.HashMap

/-!
# Groups by root

The instances of an aggregation, partitioned by root key. Groups stand in the order in
which their keys first came up, and the members of a group in the order in which they
came. An index finds the group of a key without a search.
-/

namespace Retention

/-- The instances that share one root key, repetitions included. -/
structure RootGroup where
  key : RootKey
  members : Array InstanceId
deriving DecidableEq, Repr

namespace RootGroup

def count (group : RootGroup) : Nat :=
  group.members.size

/-- Whether members have a path worth showing; unreachable ones have none. -/
def isExpandable (group : RootGroup) : Bool :=
  group.key ≠ .unreachable

end RootGroup

/-- A partition of instances by root key. -/
structure RootGroups where
  /-- The groups, in the order in which their keys first came up. -/
  groups : Array RootGroup
  /-- The place of each key among the groups. -/
  index : Std.HashMap RootKey Nat

namespace RootGroups

def empty : RootGroups :=
  ⟨#[], ∅⟩

instance : Inhabited RootGroups :=
  ⟨empty⟩

/-- Adds an instance under a key: to the group of the key, or to a new last group. -/
def insert (partition : RootGroups) (key : RootKey) (id : InstanceId) : RootGroups :=
  match partition.index[key]? with
  | some place =>
      { partition with
        groups := partition.groups.modify place fun group =>
          { group with members := group.members.push id } }
  | none =>
      { groups := partition.groups.push ⟨key, #[id]⟩
        index := partition.index.insert key partition.groups.size }

def size (partition : RootGroups) : Nat :=
  partition.groups.size

def isEmpty (partition : RootGroups) : Bool :=
  partition.groups.isEmpty

def get? (partition : RootGroups) (key : RootKey) : Option RootGroup :=
  match partition.index[key]? with
  | some place => partition.groups[place]?
  | none => none

def forRoot? (partition : RootGroups) (root : InstanceId) : Option RootGroup :=
  partition.get? (.root root)

def single? (partition : RootGroups) : Option RootGroup :=
  match partition.groups.toList with
  | [group] => some group
  | _ => none

/-- The number of aggregated instances over all groups. -/
def totalMembers (partition : RootGroups) : Nat :=
  partition.groups.foldl (fun total group => total + group.count) 0

end RootGroups

end Retention
