import Mathlib.Data.List.Induction
import Retention.Proofs.Groups
import Retention.Proofs.Heap

/-!
# Heaps and the logs they are built from

What can be read off a heap is what can be read off the log of the operations that built it: a heap
neither loses nor reorders what it was told. One operation adds to the logs what it says, and so
does a list of them. A graph with a limit tells so of the lists that it has room for, and of those
only: what it does with more is not known.
-/

namespace Retention

/-- An operation that builds a heap. -/
inductive HeapOperation where
  | addInstance (id : InstanceId)
  | addReference (source : InstanceId) (edge : Edge) (target : InstanceId)
  | addField (source : InstanceId) (name : String) (target : InstanceId)
  | addSlot (source : InstanceId) (index : UInt64) (target : InstanceId)
  | setPointer (id next : InstanceId)
  | markRoot (id : InstanceId)
deriving DecidableEq, Repr

namespace HeapOperation

/-- The instances that an operation mentions, the one that it is about before the one that it leads
to. -/
def mentions : HeapOperation → List InstanceId
  | .addInstance id => [id]
  | .addReference source _ target => [source, target]
  | .addField source _ target => [source, target]
  | .addSlot source _ target => [source, target]
  | .setPointer id next => [id, next]
  | .markRoot id => [id, id]

/-- The reference that an operation adds, and the instance that holds it. -/
def reference? : HeapOperation → Option (InstanceId × Reference)
  | .addReference source edge target => some (source, ⟨edge, target⟩)
  | .addField source name target => some (source, ⟨.field name, target⟩)
  | .addSlot source index target => some (source, ⟨.slot index, target⟩)
  | _ => none

/-- The pointer that an operation sets, after the instance that it is set for. -/
def pointer? : HeapOperation → Option (InstanceId × InstanceId)
  | .setPointer id next => some (id, next)
  | .markRoot id => some (id, id)
  | _ => none

/-- What an operation does to a heap. -/
def apply {G : Type} [Multigraph G] (heap : GraphHeap G) : HeapOperation → GraphHeap G
  | .addInstance id => heap.addInstance id
  | .addReference source edge target => heap.addReference source edge target
  | .addField source name target => heap.addField source name target
  | .addSlot source index target => heap.addSlot source index target
  | .setPointer id next => heap.setPointer id next
  | .markRoot id => heap.markRoot id

theorem target_mem_mentions {operation : HeapOperation} {source : InstanceId}
    {reference : Reference} (hreference : operation.reference? = some (source, reference)) :
    reference.target ∈ operation.mentions := by
  cases operation with
  | addInstance => cases hreference
  | addReference =>
      cases hreference
      exact List.mem_cons_of_mem _ List.mem_cons_self
  | addField =>
      cases hreference
      exact List.mem_cons_of_mem _ List.mem_cons_self
  | addSlot =>
      cases hreference
      exact List.mem_cons_of_mem _ List.mem_cons_self
  | setPointer => cases hreference
  | markRoot => cases hreference

theorem next_mem_mentions {operation : HeapOperation} {id next : InstanceId}
    (hpointer : operation.pointer? = some (id, next)) : next ∈ operation.mentions := by
  cases operation with
  | addInstance => cases hpointer
  | addReference => cases hpointer
  | addField => cases hpointer
  | addSlot => cases hpointer
  | setPointer =>
      cases hpointer
      exact List.mem_cons_of_mem _ List.mem_cons_self
  | markRoot =>
      cases hpointer
      exact List.mem_cons_self

theorem id_mem_mentions {operation : HeapOperation} {id next : InstanceId}
    (hpointer : operation.pointer? = some (id, next)) : id ∈ operation.mentions := by
  cases operation with
  | addInstance => cases hpointer
  | addReference => cases hpointer
  | addField => cases hpointer
  | addSlot => cases hpointer
  | setPointer =>
      cases hpointer
      exact List.mem_cons_self
  | markRoot =>
      cases hpointer
      exact List.mem_cons_self

end HeapOperation

/-! ## Logs -/

section

variable {α β : Type}

/-- The values that were given for an instance, in order. -/
def valuesAt (calls : List (InstanceId × α)) (id : InstanceId) : List α :=
  (calls.filter fun call => call.1 = id).map Prod.snd

theorem valuesAt_concat (calls : List (InstanceId × α)) (id other : InstanceId) (value : α) :
    valuesAt (calls ++ [(id, value)]) other =
      if id = other then valuesAt calls other ++ [value] else valuesAt calls other := by
  by_cases heq : id = other
  · simp [valuesAt, heq]
  · simp [valuesAt, heq]

theorem mem_valuesAt_iff {calls : List (InstanceId × α)} {id : InstanceId} {value : α} :
    value ∈ valuesAt calls id ↔ (id, value) ∈ calls := by
  rw [valuesAt, List.mem_map]
  constructor
  · rintro ⟨⟨held, value⟩, hcall, rfl⟩
    obtain ⟨hmem, heq⟩ := List.mem_filter.mp hcall
    rwa [← of_decide_eq_true heq]
  · intro hmem
    exact ⟨(id, value), List.mem_filter.mpr ⟨hmem, decide_eq_true rfl⟩, rfl⟩

theorem length_eraseDups_le_append [DecidableEq α] (xs ys : List α) :
    xs.eraseDups.length ≤ (xs ++ ys).eraseDups.length := by
  rw [List.eraseDups_append, List.length_append]
  exact Nat.le_add_right _ _

/-- The first reference among those of an instance is the first that was given for it. -/
theorem firstTo_valuesAt (calls : List (InstanceId × Reference)) (source target : InstanceId) :
    Reference.firstTo target (valuesAt calls source) =
      (calls.find? fun call => call.1 = source ∧ call.2.target = target).map
        fun call => call.2.edge := by
  rw [Reference.firstTo, valuesAt, List.find?_map, List.find?_filter, Option.map_map]
  congr 2
  funext call
  simp

theorem filterMap_concat (f : α → Option β) (xs : List α) (x : α) :
    (xs ++ [x]).filterMap f = xs.filterMap f ++ (f x).toList := by
  rw [List.filterMap_append]
  cases hx : f x with
  | none =>
      rw [List.filterMap_cons_none hx]
      rfl
  | some y =>
      rw [List.filterMap_cons_some hx]
      rfl

end

namespace GraphHeap

open Multigraph LawfulMultigraph

variable {G : Type} [Multigraph G] [LawfulMultigraph G] {heap : GraphHeap G}

/-! ## Reflection -/

/-- A heap reflects three logs if what can be read off it is what they say: the instances that were
mentioned, the references that were added, and the pointers that were set. -/
structure Reflects (heap : GraphHeap G) (mentioned : List InstanceId)
    (references : List (InstanceId × Reference)) (pointers : List (InstanceId × InstanceId)) : Prop
    extends heap.Synced where
  contains_iff : ∀ id, heap.contains id = true ↔ id ∈ mentioned
  instances_eq : heap.instances.toList = mentioned.eraseDups
  referenceCount_eq : heap.referenceCount = references.length
  references_eq : ∀ source, heap.references source = valuesAt references source
  pointer_eq : ∀ id, heap.pointer id = (valuesAt pointers id).getLast?

namespace Reflects

variable {mentioned : List InstanceId} {references : List (InstanceId × Reference)}
  {pointers : List (InstanceId × InstanceId)}

theorem empty : (GraphHeap.empty : GraphHeap G).Reflects [] [] [] where
  nodes id node := by
    have hnone : node? (Multigraph.empty : G) node = none := by
      rw [← Option.not_isSome_iff_eq_none, isSome_node?_iff, nodeCount_empty]
      exact Nat.not_lt_zero node
    simp [GraphHeap.empty, hnone]
  arcs node arc harc := by
    rw [GraphHeap.empty, arcs_empty] at harc
    cases harc
  contains_iff id := by simp [contains, GraphHeap.empty]
  instances_eq := by
    rw [toList_instances, instanceCount, GraphHeap.empty, nodeCount_empty]
    rfl
  referenceCount_eq := arcCount_empty
  references_eq source := by simp [GraphHeap.references, GraphHeap.empty, valuesAt]
  pointer_eq id := by simp [pointer, GraphHeap.empty, valuesAt]

theorem takes (hreflects : heap.Reflects mentioned references pointers) {id : InstanceId}
    (hroom : Fits G (mentioned ++ [id]).eraseDups.length) : heap.Takes id := by
  intro hunknown
  have hnew : id ∉ mentioned := by
    rw [← hreflects.contains_iff, hunknown]
    exact Bool.false_ne_true
  rw [eraseDups_concat, if_neg hnew, ← hreflects.instances_eq, List.length_append,
    length_instances] at hroom
  exact hroom

theorem addInstance (hreflects : heap.Reflects mentioned references pointers) {id : InstanceId}
    (hroom : Fits G (mentioned ++ [id]).eraseDups.length) :
    (heap.addInstance id).Reflects (mentioned ++ [id]) references pointers := by
  have htakes := hreflects.takes hroom
  constructor
  · exact hreflects.toSynced.addInstance htakes
  · intro other
    rw [contains_addInstance htakes, hreflects.contains_iff, List.mem_append, List.mem_singleton,
      or_comm, eq_comm]
  · rw [instances_addInstance htakes, eraseDups_concat, hreflects.instances_eq]
    simp only [hreflects.contains_iff]
  · rw [referenceCount_addInstance htakes]
    exact hreflects.referenceCount_eq
  · intro source
    rw [references_addInstance htakes hreflects.toSynced]
    exact hreflects.references_eq source
  · intro other
    rw [pointer, pointers_addInstance]
    exact hreflects.pointer_eq other

/-- What two instances leave room for, one does. -/
theorem addBoth (hreflects : heap.Reflects mentioned references pointers)
    {first second : InstanceId}
    (hroom : Fits G (mentioned ++ [first, second]).eraseDups.length) :
    heap.Takes first ∧ (heap.addInstance first).Takes second ∧
      ((heap.addInstance first).addInstance second).Reflects (mentioned ++ [first, second])
        references pointers := by
  rw [List.append_cons] at hroom ⊢
  have hfirst := hroom.mono (length_eraseDups_le_append _ _)
  have hadded := hreflects.addInstance hfirst
  exact ⟨hreflects.takes hfirst, hadded.takes hroom, hadded.addInstance hroom⟩

theorem addReference (hreflects : heap.Reflects mentioned references pointers)
    {source target : InstanceId} (edge : Edge)
    (hnodes : Fits G (mentioned ++ [source, target]).eraseDups.length)
    (harcs : Fits G (references.length + 1)) :
    (heap.addReference source edge target).Reflects (mentioned ++ [source, target])
      (references ++ [(source, ⟨edge, target⟩)]) pointers := by
  obtain ⟨hfirst, hsecond, hjoined⟩ := hreflects.addBoth hnodes
  obtain ⟨sourceNode, targetNode, hsource, htarget, heq⟩ := exists_withArc edge hfirst hsecond
  have hsynced := hjoined.toSynced
  rw [← hjoined.referenceCount_eq] at harcs
  have htakes : TakesArc _ sourceNode ⟨edge, targetNode⟩ :=
    hsynced.takesArc hsource htarget harcs
  rw [heq]
  constructor
  · exact hsynced.withArc htakes
  · exact hjoined.contains_iff
  · rw [instances_withArc htakes]
    exact hjoined.instances_eq
  · rw [referenceCount_withArc htakes, hjoined.referenceCount_eq, List.length_append]
    rfl
  · intro id
    rw [references_withArc htakes hsynced hsource htarget, valuesAt_concat, hjoined.references_eq]
  · exact hjoined.pointer_eq

omit [LawfulMultigraph G] in
theorem withPointer (hreflects : heap.Reflects mentioned references pointers)
    (id next : InstanceId) :
    (heap.withPointer id next).Reflects mentioned references (pointers ++ [(id, next)]) := by
  obtain ⟨⟨hnodes, harcs⟩, hcontains, hinstances, hcount, hreferences, hpointer⟩ := hreflects
  refine ⟨⟨hnodes, harcs⟩, hcontains, hinstances, hcount, hreferences, fun other => ?_⟩
  rw [pointer_withPointer, valuesAt_concat, hpointer]
  by_cases heq : id = other
  · simp [heq]
  · simp [heq]

theorem setPointer (hreflects : heap.Reflects mentioned references pointers)
    {id next : InstanceId} (hnodes : Fits G (mentioned ++ [id, next]).eraseDups.length) :
    (heap.setPointer id next).Reflects (mentioned ++ [id, next]) references
      (pointers ++ [(id, next)]) := by
  obtain ⟨-, -, hjoined⟩ := hreflects.addBoth hnodes
  rw [setPointer_eq]
  exact hjoined.withPointer id next

/-- One operation adds to the logs what it says. -/
theorem apply (hreflects : heap.Reflects mentioned references pointers)
    {operation : HeapOperation}
    (hnodes : Fits G (mentioned ++ operation.mentions).eraseDups.length)
    (harcs : Fits G (references ++ operation.reference?.toList).length) :
    (operation.apply heap).Reflects (mentioned ++ operation.mentions)
      (references ++ operation.reference?.toList) (pointers ++ operation.pointer?.toList) := by
  rw [List.length_append] at harcs
  cases operation with
  | addInstance id =>
      change (heap.addInstance id).Reflects _ (references ++ []) (pointers ++ [])
      rw [List.append_nil, List.append_nil]
      exact hreflects.addInstance hnodes
  | addReference source edge target =>
      change (heap.addReference source edge target).Reflects _ _ (pointers ++ [])
      rw [List.append_nil]
      exact hreflects.addReference edge hnodes harcs
  | addField source name target =>
      change (heap.addReference source (.field name) target).Reflects _ _ (pointers ++ [])
      rw [List.append_nil]
      exact hreflects.addReference (.field name) hnodes harcs
  | addSlot source index target =>
      change (heap.addReference source (.slot index) target).Reflects _ _ (pointers ++ [])
      rw [List.append_nil]
      exact hreflects.addReference (.slot index) hnodes harcs
  | setPointer id next =>
      change (heap.setPointer id next).Reflects _ (references ++ []) _
      rw [List.append_nil]
      exact hreflects.setPointer hnodes
  | markRoot id =>
      change (heap.setPointer id id).Reflects _ (references ++ []) _
      rw [List.append_nil]
      exact hreflects.setPointer hnodes

end Reflects

/-- The heap that a list of operations builds. -/
def build (operations : List HeapOperation) : GraphHeap G :=
  operations.foldl HeapOperation.apply .empty

/-- A graph has room for a list of operations: a node for every instance that they mention, and an
arc for every reference that they add. -/
structure HasRoom (G : Type) [Multigraph G] (operations : List HeapOperation) : Prop where
  instances : Fits G (operations.flatMap HeapOperation.mentions).eraseDups.length
  references : Fits G (operations.filterMap HeapOperation.reference?).length

namespace HasRoom

omit [LawfulMultigraph G]

variable {operations more : List HeapOperation}

/-- A graph without a limit has room for any list. -/
theorem of_unlimited (hcapacity : capacity G = none) : HasRoom G operations :=
  ⟨.of_unlimited hcapacity, .of_unlimited hcapacity⟩

theorem of_append (hroom : HasRoom G (operations ++ more)) : HasRoom G operations := by
  obtain ⟨hinstances, hreferences⟩ := hroom
  rw [List.flatMap_append] at hinstances
  rw [List.filterMap_append, List.length_append] at hreferences
  exact ⟨hinstances.mono (length_eraseDups_le_append _ _),
    hreferences.mono (Nat.le_add_right _ _)⟩

end HasRoom

/-- A heap reflects all the operations that it was built by. -/
theorem reflects_build {operations : List HeapOperation} (hroom : HasRoom G operations) :
    (build operations : GraphHeap G).Reflects (operations.flatMap HeapOperation.mentions)
      (operations.filterMap HeapOperation.reference?)
      (operations.filterMap HeapOperation.pointer?) := by
  induction operations using List.reverseRecOn with
  | nil => exact .empty
  | append_singleton operations operation ih =>
      have hstep : (build (operations ++ [operation]) : GraphHeap G) =
          operation.apply (build operations) := List.foldl_concat _ _ _ _
      have hbefore := ih hroom.of_append
      obtain ⟨hnodes, harcs⟩ := hroom
      rw [List.flatMap_append, List.flatMap_singleton] at hnodes
      rw [filterMap_concat] at harcs
      rw [hstep, List.flatMap_append, List.flatMap_singleton, filterMap_concat, filterMap_concat]
      exact hbefore.apply hnodes harcs

/-- A heap is what it was told, by any list of operations that its graph has room for; one without
a limit has room for all. It lists the instances that the operations mention, in the order of their
first mention, and has no others. It keeps all references, those of each instance in the order in
which they were added, so the first of them to a target is the first that was added. The pointer of
an instance is the last that was set. Whatever references and pointers lead to is in the heap. -/
theorem build_refines_log (operations : List HeapOperation) (hroom : HasRoom G operations) :
    let heap : GraphHeap G := build operations
    let mentioned := operations.flatMap HeapOperation.mentions
    let added := operations.filterMap HeapOperation.reference?
    let pointed := operations.filterMap HeapOperation.pointer?
    heap.instances.toList = mentioned.eraseDups ∧
      heap.instanceCount = mentioned.eraseDups.length ∧
      (∀ id, heap.contains id = true ↔ id ∈ mentioned) ∧
      heap.referenceCount = added.length ∧
      (∀ source, heap.references source = valuesAt added source) ∧
      (∀ id, heap.contains id = false → heap.references id = []) ∧
      (∀ source target, heap.view.edgeBetween source target =
        (added.find? fun call => call.1 = source ∧ call.2.target = target).map
          fun call => call.2.edge) ∧
      (∀ id, heap.pointer id = (valuesAt pointed id).getLast?) ∧
      (∀ source, ∀ reference ∈ heap.references source, heap.contains reference.target = true) ∧
      ∀ id next, heap.pointer id = some next → heap.contains next = true := by
  intro heap mentioned added pointed
  have hreflects : heap.Reflects mentioned added pointed := reflects_build hroom
  refine ⟨hreflects.instances_eq, ?_, hreflects.contains_iff, hreflects.referenceCount_eq,
    hreflects.references_eq, fun id => references_of_not_contains, fun source target => ?_,
    hreflects.pointer_eq, fun source reference hreference => ?_, fun id next hpointer => ?_⟩
  · rw [← length_instances, hreflects.instances_eq]
  · rw [← firstTo_valuesAt, ← hreflects.references_eq]
    rfl
  · rw [hreflects.references_eq, mem_valuesAt_iff] at hreference
    obtain ⟨operation, hoperation, hadds⟩ := List.mem_filterMap.mp hreference
    rw [hreflects.contains_iff]
    exact List.mem_flatMap.mpr ⟨operation, hoperation, HeapOperation.target_mem_mentions hadds⟩
  · rw [hreflects.pointer_eq] at hpointer
    have hset := mem_valuesAt_iff.mp (List.mem_of_getLast? hpointer)
    obtain ⟨operation, hoperation, hsets⟩ := List.mem_filterMap.mp hset
    rw [hreflects.contains_iff]
    exact List.mem_flatMap.mpr ⟨operation, hoperation, HeapOperation.next_mem_mentions hsets⟩

/-- Instances are mentioned over and over, equal references and one to the instance itself are kept,
and the pointer of 1 is set twice. -/
theorem build_refines_log_sample :
    let operations : List HeapOperation :=
      [.setPointer ⟨1⟩ ⟨2⟩, .addField ⟨1⟩ "self" ⟨1⟩, .addSlot ⟨3⟩ 0 ⟨2⟩, .addField ⟨1⟩ "self" ⟨1⟩,
        .addReference ⟨1⟩ (.slot 4) ⟨2⟩, .addField ⟨1⟩ "last" ⟨2⟩, .markRoot ⟨1⟩, .addInstance ⟨2⟩]
    let heap : MemoryHeap := build operations
    heap.instances.toList = [⟨1⟩, ⟨2⟩, ⟨3⟩] ∧ heap.instanceCount = 3 ∧ heap.referenceCount = 5 ∧
      heap.references ⟨1⟩ = [⟨.field "self", ⟨1⟩⟩, ⟨.field "self", ⟨1⟩⟩, ⟨.slot 4, ⟨2⟩⟩,
        ⟨.field "last", ⟨2⟩⟩] ∧
      heap.references ⟨9⟩ = [] ∧ heap.view.edgeBetween ⟨1⟩ ⟨2⟩ = some (.slot 4) ∧
      heap.pointer ⟨1⟩ = some ⟨1⟩ ∧ heap.contains ⟨1⟩ = true := by
  intro operations heap
  obtain ⟨hinstances, hcount, hcontains, hreferenceCount, hreferences, hunknown, hfirst, hpointer,
    -, hnext⟩ := build_refines_log (G := Adjacency) operations (.of_unlimited rfl)
  have hroot : heap.pointer ⟨1⟩ = some ⟨1⟩ := (hpointer ⟨1⟩).trans (by decide)
  have hlisted : heap.instances.toList = [⟨1⟩, ⟨2⟩, ⟨3⟩] := hinstances.trans (by decide)
  have hadded : heap.referenceCount = 5 := hreferenceCount.trans (by decide)
  have hedge : heap.view.edgeBetween ⟨1⟩ ⟨2⟩ = some (.slot 4) := (hfirst ⟨1⟩ ⟨2⟩).trans (by decide)
  have hbare : heap.contains ⟨9⟩ = false := by
    rw [← Bool.not_eq_true, hcontains]
    decide
  have hthree : heap.instanceCount = 3 := hcount.trans (by decide)
  have hunheld : heap.references ⟨9⟩ = [] := hunknown ⟨9⟩ hbare
  have hheld : heap.contains ⟨1⟩ = true := hnext ⟨1⟩ ⟨1⟩ hroot
  refine ⟨hlisted, hthree, hadded, ?_, hunheld, hedge, hroot, hheld⟩
  exact (hreferences ⟨1⟩).trans (by decide)

end GraphHeap

end Retention
