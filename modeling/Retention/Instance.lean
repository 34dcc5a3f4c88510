/-!
# Instances

The objects of a heap snapshot are known only by identity. Identities are opaque
64-bit numbers, stable for the life of the snapshot, and compared by number.
-/

namespace Retention

/-- The identity of one object in a heap snapshot. -/
structure InstanceId where
  raw : UInt64
deriving DecidableEq, Hashable, Inhabited, Repr

namespace InstanceId

/-- An identity is shown as its number behind a hash sign. -/
def display (id : InstanceId) : String :=
  "#" ++ id.raw.toNat.repr

/-- Identities are ordered by number. -/
def compare (a b : InstanceId) : Ordering :=
  Ord.compare a.raw.toNat b.raw.toNat

theorem raw_injective {a b : InstanceId} (hraw : a.raw = b.raw) : a = b := by
  cases a
  cases b
  cases hraw
  rfl

/-- There are only as many identities as 64-bit numbers. -/
theorem toNat_lt (id : InstanceId) : id.raw.toNat < UInt64.size :=
  id.raw.toNat_lt_size

end InstanceId

end Retention
