import Retention.Heap
import Retention.Heap.Graph
import Std.Data.HashMap

/-!
# Heaps held in memory

A heap that is built up operation by operation. Instances are the nodes of a graph, listed in the
order in which they were first mentioned, and references are its arcs. A map finds the node of an
instance. Nearest-root pointers are kept beside the graph, the last one set for each instance.
Nothing is ever removed, and equal references are kept apart.
-/

namespace Retention

/-- A heap snapshot held in memory, in a graph. -/
structure GraphHeap (G : Type) where
  graph : G
  /-- The node of every instance of the heap. -/
  nodes : Std.HashMap InstanceId Nat
  /-- The nearest-root pointers. -/
  pointers : Std.HashMap InstanceId InstanceId

namespace GraphHeap

variable {G : Type}

def contains (heap : GraphHeap G) (id : InstanceId) : Bool :=
  heap.nodes.contains id

/-- The nearest-root pointer of an instance; an unknown instance has none. -/
def pointer (heap : GraphHeap G) (id : InstanceId) : Option InstanceId :=
  heap.pointers[id]?

variable [Multigraph G]

def empty : GraphHeap G :=
  ⟨Multigraph.empty, ∅, ∅⟩

instance : Inhabited (GraphHeap G) :=
  ⟨empty⟩

def instanceCount (heap : GraphHeap G) : Nat :=
  Multigraph.nodeCount heap.graph

def referenceCount (heap : GraphHeap G) : Nat :=
  Multigraph.arcCount heap.graph

/-- All instances, in the order of their first mention. -/
def instances (heap : GraphHeap G) : Array InstanceId :=
  (Array.range heap.instanceCount).filterMap (Multigraph.node? heap.graph)

/-- The node of an instance, which is added unless the heap has it already. -/
def node (heap : GraphHeap G) (id : InstanceId) : Nat × GraphHeap G :=
  match heap.nodes[id]? with
  | some node => (node, heap)
  | none =>
      let (node, graph) := Multigraph.addNode heap.graph id
      (node, { heap with graph := graph, nodes := heap.nodes.insert id node })

/-- Adds an instance without references, unless the heap has it already. -/
def addInstance (heap : GraphHeap G) (id : InstanceId) : GraphHeap G :=
  (heap.node id).2

/-- Adds a reference from `source` to `target`, and both instances. -/
def addReference (heap : GraphHeap G) (source : InstanceId) (edge : Edge)
    (target : InstanceId) : GraphHeap G :=
  let (sourceNode, heap) := heap.node source
  let (targetNode, heap) := heap.node target
  { heap with graph := Multigraph.addArc heap.graph sourceNode ⟨edge, targetNode⟩ }

def addField (heap : GraphHeap G) (source : InstanceId) (name : String)
    (target : InstanceId) : GraphHeap G :=
  heap.addReference source (.field name) target

def addSlot (heap : GraphHeap G) (source : InstanceId) (index : UInt64)
    (target : InstanceId) : GraphHeap G :=
  heap.addReference source (.slot index) target

/-- Sets the nearest-root pointer of an instance, replacing an earlier one. -/
def setPointer (heap : GraphHeap G) (id next : InstanceId) : GraphHeap G :=
  let heap := (heap.addInstance id).addInstance next
  { heap with pointers := heap.pointers.insert id next }

/-- Makes an instance a root: its pointer leads to itself. -/
def markRoot (heap : GraphHeap G) (id : InstanceId) : GraphHeap G :=
  heap.setPointer id id

/-- The reference that an arc stands for. -/
def reference? (heap : GraphHeap G) (arc : Arc) : Option Reference :=
  (Multigraph.node? heap.graph arc.target).map fun target => ⟨arc.edge, target⟩

/-- The references of an instance, in the order in which they were added; an unknown instance has
none. -/
def references (heap : GraphHeap G) (id : InstanceId) : List Reference :=
  match heap.nodes[id]? with
  | none => []
  | some node =>
      -- The arcs of a node come latest first.
      ((Multigraph.arcs heap.graph node).filterMap heap.reference?).reverse

/-- The heap as analyses read it. -/
def view (heap : GraphHeap G) : HeapView :=
  ⟨heap.pointer, heap.references⟩

end GraphHeap

/-- Heaps are held in lists of nodes. -/
abbrev MemoryHeap : Type :=
  GraphHeap Adjacency

end Retention
