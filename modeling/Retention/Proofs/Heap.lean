import Mathlib.Data.List.Basic
import Retention.Heap.Memory

/-!
# Heaps held in memory

A heap held in memory keeps three things: a graph, a map from instances to nodes, and the pointers.
The map and the graph stay in step: an instance stands at exactly one node, and arcs join nodes. So
adding an instance, an arc or a pointer changes what can be read off the heap in one place only,
whichever graph is used, as long as the graph has room.
-/

namespace Retention.GraphHeap

open Multigraph LawfulMultigraph

variable {G : Type} {heap : GraphHeap G} {id other source target : InstanceId} {node : Nat}

theorem contains_of_some (hnode : heap.nodes[id]? = some node) : heap.contains id = true := by
  rw [contains, Std.HashMap.contains_eq_isSome_getElem?, hnode]
  rfl

theorem contains_of_none (hnode : heap.nodes[id]? = none) : heap.contains id = false := by
  rw [contains, Std.HashMap.contains_eq_isSome_getElem?, hnode]
  rfl

/-- A heap with one more pointer set. -/
def withPointer (heap : GraphHeap G) (id next : InstanceId) : GraphHeap G :=
  { heap with pointers := heap.pointers.insert id next }

theorem pointer_withPointer (heap : GraphHeap G) (id next other : InstanceId) :
    (heap.withPointer id next).pointer other =
      if id = other then some next else heap.pointer other := by
  rw [pointer, withPointer, Std.HashMap.getElem?_insert]
  simp only [beq_iff_eq, pointer]

variable [Multigraph G]

theorem toList_instances (heap : GraphHeap G) :
    heap.instances.toList = (List.range heap.instanceCount).filterMap (node? heap.graph) := by
  rw [instances, Array.toList_filterMap, Array.toList_range]

theorem references_of_not_contains (hunknown : heap.contains id = false) :
    heap.references id = [] := by
  rw [references]
  cases hnode : heap.nodes[id]? with
  | none => rfl
  | some node =>
      rw [contains_of_some hnode] at hunknown
      cases hunknown

theorem setPointer_eq (heap : GraphHeap G) (id next : InstanceId) :
    heap.setPointer id next = ((heap.addInstance id).addInstance next).withPointer id next :=
  rfl

/-- The parts of a heap are in step. -/
structure Synced (heap : GraphHeap G) : Prop where
  /-- The map has an instance at a node exactly if the node stands for the instance. -/
  nodes : ∀ id node, heap.nodes[id]? = some node ↔ node? heap.graph node = some id
  /-- Arcs join nodes. -/
  arcs : ∀ node, ∀ arc ∈ arcs heap.graph node,
    node < nodeCount heap.graph ∧ arc.target < nodeCount heap.graph

/-- An instance stands at one node only. -/
theorem Synced.node_eq_iff (hsynced : heap.Synced) {otherNode : Nat}
    (hnode : heap.nodes[id]? = some node) (hother : heap.nodes[other]? = some otherNode) :
    otherNode = node ↔ other = id := by
  constructor
  · rintro rfl
    rw [hsynced.nodes] at hnode hother
    exact Option.some.inj (hother.symm.trans hnode)
  · rintro rfl
    exact Option.some.inj (hother.symm.trans hnode)

/-- A heap takes an instance that it has already, or one for which its graph takes a node. -/
def Takes (heap : GraphHeap G) (id : InstanceId) : Prop :=
  heap.contains id = false → TakesNode heap.graph

theorem Takes.takesNode (htakes : heap.Takes id) (hnode : heap.nodes[id]? = none) :
    TakesNode heap.graph :=
  htakes (contains_of_none hnode)

/-! ## Adding an instance -/

theorem addInstance_of_some (hnode : heap.nodes[id]? = some node) : heap.addInstance id = heap := by
  rw [addInstance, GraphHeap.node, hnode]

theorem graph_addInstance_of_none (hnode : heap.nodes[id]? = none) :
    (heap.addInstance id).graph = (addNode heap.graph id).2 := by
  rw [addInstance, GraphHeap.node, hnode]

@[simp] theorem pointers_addInstance (heap : GraphHeap G) (id : InstanceId) :
    (heap.addInstance id).pointers = heap.pointers := by
  unfold addInstance GraphHeap.node
  split
  next => rfl
  next => rfl

variable [LawfulMultigraph G]

/-- The number of nodes is the number of the next node. -/
theorem node?_nodeCount (graph : G) : node? graph (nodeCount graph) = none := by
  rw [← Option.not_isSome_iff_eq_none, isSome_node?_iff]
  exact Nat.lt_irrefl _

theorem length_instances (heap : GraphHeap G) :
    heap.instances.toList.length = heap.instanceCount := by
  rw [toList_instances, List.filterMap_length_eq_length.mpr, List.length_range]
  intro node hnode
  exact (isSome_node?_iff heap.graph node).mpr (List.mem_range.mp hnode)

section

variable (htakes : heap.Takes id)

include htakes

theorem nodes_addInstance_of_none (hnode : heap.nodes[id]? = none) (other : InstanceId) :
    (heap.addInstance id).nodes[other]? =
      if id = other then some (nodeCount heap.graph) else heap.nodes[other]? := by
  rw [addInstance, GraphHeap.node, hnode]
  simp only [Std.HashMap.getElem?_insert, beq_iff_eq, fst_addNode (htakes.takesNode hnode) id]

/-- An instance has a node in the heap to which it is added. -/
theorem exists_node :
    ∃ node, heap.node id = (node, heap.addInstance id) ∧
      (heap.addInstance id).nodes[id]? = some node := by
  refine ⟨(heap.node id).1, rfl, ?_⟩
  cases hnode : heap.nodes[id]? with
  | some node => rw [addInstance_of_some hnode, GraphHeap.node, hnode]
  | none =>
      rw [nodes_addInstance_of_none htakes hnode, if_pos rfl, GraphHeap.node, hnode,
        fst_addNode (htakes.takesNode hnode) id]

theorem nodes_addInstance_of_some (hother : heap.nodes[other]? = some node) :
    (heap.addInstance id).nodes[other]? = some node := by
  cases hnode : heap.nodes[id]? with
  | some found => rwa [addInstance_of_some hnode]
  | none =>
      have hne : id ≠ other := by
        rintro rfl
        rw [hnode] at hother
        cases hother
      rwa [nodes_addInstance_of_none htakes hnode, if_neg hne]

theorem Synced.addInstance (hsynced : heap.Synced) : (heap.addInstance id).Synced := by
  cases hnode : heap.nodes[id]? with
  | some node => rwa [addInstance_of_some hnode]
  | none =>
      have hroom := htakes.takesNode hnode
      constructor
      · intro other node
        rw [nodes_addInstance_of_none htakes hnode, graph_addInstance_of_none hnode,
          node?_addNode hroom]
        by_cases heq : id = other
        · subst heq
          have hfree := hsynced.nodes id node
          rw [hnode] at hfree
          by_cases hlast : node = nodeCount heap.graph
          · simp [hlast]
          · simp [hlast, Ne.symm hlast, ← hfree]
        · rw [if_neg heq, hsynced.nodes]
          by_cases hlast : node = nodeCount heap.graph
          · -- The new node stands for no other instance.
            subst hlast
            simp [heq, node?_nodeCount]
          · rw [if_neg hlast]
      · intro node arc harc
        rw [graph_addInstance_of_none hnode] at harc ⊢
        rw [arcs_addNode hroom] at harc
        rw [nodeCount_addNode hroom]
        obtain ⟨hsource, htarget⟩ := hsynced.arcs node arc harc
        exact ⟨Nat.lt_succ_of_lt hsource, Nat.lt_succ_of_lt htarget⟩

theorem contains_addInstance (other : InstanceId) :
    (heap.addInstance id).contains other = true ↔ id = other ∨ heap.contains other = true := by
  cases hnode : heap.nodes[id]? with
  | some node =>
      rw [addInstance_of_some hnode]
      refine ⟨.inr, ?_⟩
      rintro (rfl | hother)
      · exact contains_of_some hnode
      · exact hother
  | none =>
      simp only [contains, Std.HashMap.contains_eq_isSome_getElem?]
      rw [nodes_addInstance_of_none htakes hnode]
      by_cases heq : id = other
      · simp [heq]
      · simp [heq]

/-- An instance that is new is listed last. -/
theorem instances_addInstance :
    (heap.addInstance id).instances.toList =
      if heap.contains id = true then heap.instances.toList
      else heap.instances.toList ++ [id] := by
  cases hnode : heap.nodes[id]? with
  | some node => rw [addInstance_of_some hnode, if_pos (contains_of_some hnode)]
  | none =>
      have hroom := htakes.takesNode hnode
      have hold : (List.range heap.instanceCount).filterMap (node? (addNode heap.graph id).2) =
          heap.instances.toList := by
        rw [toList_instances]
        refine List.filterMap_congr fun node hmem => ?_
        have hne : node ≠ nodeCount heap.graph := Nat.ne_of_lt (List.mem_range.mp hmem)
        rw [node?_addNode hroom, if_neg hne]
      have hcount : (heap.addInstance id).instanceCount = heap.instanceCount + 1 := by
        rw [instanceCount, graph_addInstance_of_none hnode, nodeCount_addNode hroom, instanceCount]
      have hlast : node? (addNode heap.graph id).2 heap.instanceCount = some id := by
        rw [node?_addNode hroom]
        exact if_pos rfl
      rw [contains_of_none hnode, toList_instances, hcount, graph_addInstance_of_none hnode,
        List.range_succ, List.filterMap_append, hold]
      simp [hlast]

theorem referenceCount_addInstance :
    (heap.addInstance id).referenceCount = heap.referenceCount := by
  cases hnode : heap.nodes[id]? with
  | some node => rw [addInstance_of_some hnode]
  | none =>
      rw [referenceCount, graph_addInstance_of_none hnode,
        arcCount_addNode (htakes.takesNode hnode), referenceCount]

theorem references_addInstance (hsynced : heap.Synced) (other : InstanceId) :
    (heap.addInstance id).references other = heap.references other := by
  cases hnode : heap.nodes[id]? with
  | some node => rw [addInstance_of_some hnode]
  | none =>
      have hroom := htakes.takesNode hnode
      rw [references, references, nodes_addInstance_of_none htakes hnode,
        graph_addInstance_of_none hnode]
      by_cases heq : id = other
      · -- The new instance stands at a node that no arc leaves.
        subst heq
        have hbare : arcs heap.graph (nodeCount heap.graph) = [] := by
          refine List.eq_nil_iff_forall_not_mem.mpr fun arc harc => ?_
          exact Nat.lt_irrefl _ (hsynced.arcs _ arc harc).1
        simp [hnode, arcs_addNode hroom, hbare]
      · rw [if_neg heq]
        cases heap.nodes[other]? with
        | none => rfl
        | some node =>
            simp only [arcs_addNode hroom]
            refine congrArg List.reverse (List.filterMap_congr fun arc harc => ?_)
            have hne := Nat.ne_of_lt (hsynced.arcs node arc harc).2
            rw [reference?, reference?, graph_addInstance_of_none hnode,
              node?_addNode hroom, if_neg hne]

end

/-! ## Adding a reference -/

/-- A heap with one more arc. -/
def withArc (heap : GraphHeap G) (source : Nat) (arc : Arc) : GraphHeap G :=
  { heap with graph := addArc heap.graph source arc }

/-- Once both its instances have nodes, a reference is an arc between these. -/
theorem exists_withArc (edge : Edge) (hsource : heap.Takes source)
    (htarget : (heap.addInstance source).Takes target) :
    let joined := (heap.addInstance source).addInstance target
    ∃ sourceNode targetNode, joined.nodes[source]? = some sourceNode ∧
      joined.nodes[target]? = some targetNode ∧
      heap.addReference source edge target = joined.withArc sourceNode ⟨edge, targetNode⟩ := by
  intro joined
  obtain ⟨sourceNode, hfirst, hfound⟩ := exists_node hsource
  obtain ⟨targetNode, hsecond, hjoined⟩ := exists_node htarget
  refine ⟨sourceNode, targetNode, nodes_addInstance_of_some htarget hfound, hjoined, ?_⟩
  rw [addReference, hfirst]
  simp only [hsecond]
  rfl

theorem Synced.lt_nodeCount (hsynced : heap.Synced) (hnode : heap.nodes[id]? = some node) :
    node < nodeCount heap.graph := by
  rw [← isSome_node?_iff, (hsynced.nodes id node).mp hnode]
  rfl

theorem Synced.takesArc (hsynced : heap.Synced) {edge : Edge} {sourceNode targetNode : Nat}
    (hsource : heap.nodes[source]? = some sourceNode)
    (htarget : heap.nodes[target]? = some targetNode) (hroom : Fits G (heap.referenceCount + 1)) :
    TakesArc heap.graph sourceNode ⟨edge, targetNode⟩ :=
  ⟨hsynced.lt_nodeCount hsource, hsynced.lt_nodeCount htarget, hroom⟩

section

variable {arc : Arc} (htakes : TakesArc heap.graph node arc)

include htakes

theorem Synced.withArc (hsynced : heap.Synced) : (heap.withArc node arc).Synced where
  nodes id other := by
    rw [GraphHeap.withArc, node?_addArc htakes]
    exact hsynced.nodes id other
  arcs other joining harc := by
    rw [GraphHeap.withArc, arcs_addArc htakes] at harc
    rw [GraphHeap.withArc, nodeCount_addArc htakes]
    split at harc
    next heq =>
      subst heq
      rcases List.mem_cons.mp harc with rfl | harc
      · exact ⟨htakes.source_lt, htakes.target_lt⟩
      · exact hsynced.arcs other joining harc
    next => exact hsynced.arcs other joining harc

theorem instances_withArc : (heap.withArc node arc).instances = heap.instances := by
  have hnode? : node? (addArc heap.graph node arc) = node? heap.graph :=
    funext fun other => node?_addArc htakes other
  rw [instances, instances, instanceCount, withArc, nodeCount_addArc htakes, hnode?,
    instanceCount]

theorem referenceCount_withArc :
    (heap.withArc node arc).referenceCount = heap.referenceCount + 1 :=
  arcCount_addArc htakes

/-- The reference of a new arc comes last among those of its instance. -/
theorem references_withArc (hsynced : heap.Synced) (hsource : heap.nodes[source]? = some node)
    (htarget : heap.nodes[target]? = some arc.target) (id : InstanceId) :
    (heap.withArc node arc).references id =
      if source = id then heap.references id ++ [⟨arc.edge, target⟩] else heap.references id := by
  have hread : (heap.withArc node arc).reference? = heap.reference? := by
    funext other
    rw [reference?, reference?, withArc, node?_addArc htakes]
  have hnew : heap.reference? arc = some ⟨arc.edge, target⟩ := by
    rw [reference?, (hsynced.nodes target arc.target).mp htarget]
    rfl
  have harcs (other : Nat) : arcs (heap.withArc node arc).graph other =
      if other = node then arc :: arcs heap.graph other else arcs heap.graph other :=
    arcs_addArc htakes other
  rw [references, references, hread, show (heap.withArc node arc).nodes = heap.nodes from rfl]
  cases hnode : heap.nodes[id]? with
  | none =>
      have hne : source ≠ id := by
        rintro rfl
        rw [hsource] at hnode
        cases hnode
      rw [if_neg hne]
  | some found =>
      simp only [harcs, hsynced.node_eq_iff hsource hnode]
      by_cases heq : id = source
      · rw [if_pos heq, if_pos heq.symm, List.filterMap_cons_some hnew, List.reverse_cons]
      · rw [if_neg heq, if_neg (Ne.symm heq)]

end

end Retention.GraphHeap
