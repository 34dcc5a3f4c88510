import Retention.Instance

/-!
# Root keys

Instances are grouped by the root that their nearest-root pointers settle on. The
instances that no root reaches share one bucket, which is a key of its own.
-/

namespace Retention

/-- What an instance is grouped under. -/
inductive RootKey where
  /-- The root that the pointers settle on. -/
  | root (id : InstanceId)
  /-- The bucket of instances that no root reaches. -/
  | unreachable
deriving DecidableEq, Hashable, Inhabited, Repr

namespace RootKey

def instance? : RootKey → Option InstanceId
  | .root id => some id
  | .unreachable => none

def ofOption : Option InstanceId → RootKey
  | some id => .root id
  | none => .unreachable

@[simp] theorem instance?_ofOption (root : Option InstanceId) :
    (ofOption root).instance? = root := by
  cases root <;> rfl

@[simp] theorem ofOption_instance? (key : RootKey) : ofOption key.instance? = key := by
  cases key <;> rfl

/-- Roots come in the order of their identities, and the unreachable bucket last. -/
def compare : RootKey → RootKey → Ordering
  | .root a, .root b => a.compare b
  | .root _, .unreachable => .lt
  | .unreachable, .root _ => .gt
  | .unreachable, .unreachable => .eq

/-- Keys in ascending order. -/
def sorted (keys : List RootKey) : List RootKey :=
  keys.mergeSort fun a b => a.compare b != .gt

/-- Each key once, in the order in which they first come up. -/
def distinct (keys : List RootKey) : List RootKey :=
  keys.eraseDups

def noRootLabel : String :=
  "<no GC root>"

/-- A root is shown as its instance, and the unreachable bucket by its label. -/
def display : RootKey → String
  | .root id => id.display
  | .unreachable => noRootLabel

end RootKey

end Retention
