import Retention.Heap.Memory

/-!
# Sample heaps

Two shapes of heap that analyses are tried on: one long chain, and many leaves under
few roots.
-/

namespace Retention.MemoryHeap

/-- Links each instance of a list to the next one by a field numbered along the list,
sets the pointers the same way, and makes the last instance a root if asked to. -/
def addChain (heap : MemoryHeap) (ids : List InstanceId) (rooted : Bool) : MemoryHeap :=
  let linked := (ids.zip ids.tail).zipIdx.foldl (fun heap ((source, target), number) =>
    (heap.addField source ("n" ++ number.repr) target).setPointer source target) heap
  match rooted, ids.getLast? with
  | true, some last => linked.markRoot last
  | _, _ => linked

/-- Adds `rootCount` roots numbered from `base` and leaves numbered from zero, each leaf
held by one root through the field `holder`, the roots taken in turn. -/
def addFanIn (heap : MemoryHeap) (leafCount rootCount base : UInt64) : MemoryHeap :=
  let rooted := (List.range rootCount.toNat).foldl (fun heap root =>
    heap.markRoot ⟨base + UInt64.ofNat root⟩) heap
  (List.range leafCount.toNat).foldl (fun heap leaf =>
    let source : InstanceId := ⟨UInt64.ofNat leaf⟩
    let root : InstanceId := ⟨base + UInt64.ofNat leaf % rootCount⟩
    (heap.addField source "holder" root).setPointer source root) rooted

end Retention.MemoryHeap
