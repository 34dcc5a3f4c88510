import Retention.Reference

/-!
# Heap views

An analysis reads a snapshot through two questions only: where the nearest-root pointer
of an instance leads, and which references an instance holds.
-/

namespace Retention

/-- What can be read off a heap snapshot. -/
structure HeapView where
  /-- The next hop from an instance toward its nearest root: nothing when no root
  reaches it, and the instance itself when it is a root. -/
  pointer : InstanceId → Option InstanceId
  /-- The references an instance holds, in the order of its fields or slots. -/
  references : InstanceId → List Reference

/-- The edge of the first reference that `source` holds to `target`. -/
def HeapView.edgeBetween (heap : HeapView) (source target : InstanceId) : Option Edge :=
  Reference.firstTo target (heap.references source)

end Retention
