import Retention.Reference

/-!
# Directed graphs of instances

Heaps held in memory are kept in a directed graph: its nodes stand for instances and are known by
number, its arcs carry the edges of the heap. Parallel arcs, equal ones and loops are kept apart.
What is asked of a graph is a class, so that what holds of such heaps holds of them with any graph
that keeps the laws. A graph may have a capacity, as one has whose nodes and arcs are numbered by
machine words: the laws speak of what is added within it, and promise nothing beyond.
-/

namespace Retention

/-- An arc, seen from the node that it leaves. -/
structure Arc where
  edge : Edge
  /-- The number of the node that the arc leads to. -/
  target : Nat
deriving DecidableEq, Repr

/-- Directed graphs whose nodes stand for instances. -/
class Multigraph (G : Type) where
  empty : G
  nodeCount : G → Nat
  arcCount : G → Nat
  /-- The instance that a node stands for. -/
  node? : G → Nat → Option InstanceId
  /-- The arcs that leave a node. -/
  arcs : G → Nat → List Arc
  /-- Adds a node and gives its number. -/
  addNode : G → InstanceId → Nat × G
  /-- Adds an arc that leaves a node. -/
  addArc : G → Nat → Arc → G
  /-- The most nodes that there is room for, and the most arcs, if there is a limit. -/
  capacity : Option Nat

namespace Multigraph

/-- There is room for so many nodes, or so many arcs. -/
def Fits (G : Type) [Multigraph G] (count : Nat) : Prop :=
  ∀ limit ∈ capacity G, count ≤ limit

variable {G : Type} [Multigraph G] {count more : Nat}

theorem Fits.mono (hfits : Fits G more) (hle : count ≤ more) : Fits G count :=
  fun limit hlimit => Nat.le_trans hle (hfits limit hlimit)

/-- In a graph without a limit there is room for any number. -/
theorem Fits.of_unlimited (hcapacity : capacity G = none) : Fits G count := by
  intro limit hlimit
  rw [hcapacity] at hlimit
  cases hlimit

/-- There is room for one more node. -/
def TakesNode (graph : G) : Prop :=
  Fits G (nodeCount graph + 1)

/-- An arc would join nodes, and there is room for one more. -/
structure TakesArc (graph : G) (source : Nat) (arc : Arc) : Prop where
  source_lt : source < nodeCount graph
  target_lt : arc.target < nodeCount graph
  fits : Fits G (arcCount graph + 1)

end Multigraph

section

open Multigraph

/-- The laws of graphs: nodes are numbered in the order in which they are added, and the arcs that
leave a node come latest first. They hold of what is added while there is room. -/
class LawfulMultigraph (G : Type) [Multigraph G] : Prop where
  nodeCount_empty : nodeCount (empty : G) = 0
  arcCount_empty : arcCount (empty : G) = 0
  arcs_empty : ∀ node, arcs (empty : G) node = []
  isSome_node?_iff : ∀ (graph : G) node,
    (node? graph node).isSome = true ↔ node < nodeCount graph
  fst_addNode : ∀ {graph : G}, TakesNode graph → ∀ id, (addNode graph id).1 = nodeCount graph
  nodeCount_addNode : ∀ {graph : G}, TakesNode graph → ∀ id,
    nodeCount (addNode graph id).2 = nodeCount graph + 1
  arcCount_addNode : ∀ {graph : G}, TakesNode graph → ∀ id,
    arcCount (addNode graph id).2 = arcCount graph
  node?_addNode : ∀ {graph : G}, TakesNode graph → ∀ id node, node? (addNode graph id).2 node =
    if node = nodeCount graph then some id else node? graph node
  arcs_addNode : ∀ {graph : G}, TakesNode graph → ∀ id node,
    arcs (addNode graph id).2 node = arcs graph node
  nodeCount_addArc : ∀ {graph : G} {source arc}, TakesArc graph source arc →
    nodeCount (addArc graph source arc) = nodeCount graph
  node?_addArc : ∀ {graph : G} {source arc}, TakesArc graph source arc → ∀ node,
    node? (addArc graph source arc) node = node? graph node
  arcCount_addArc : ∀ {graph : G} {source arc}, TakesArc graph source arc →
    arcCount (addArc graph source arc) = arcCount graph + 1
  arcs_addArc : ∀ {graph : G} {source arc}, TakesArc graph source arc → ∀ node,
    arcs (addArc graph source arc) node =
      if node = source then arc :: arcs graph node else arcs graph node

end

/-- A node with the arcs that leave it, latest first. -/
structure GraphNode where
  id : InstanceId
  arcs : List Arc
deriving DecidableEq, Repr

/-- A graph as the list of its nodes. -/
structure Adjacency where
  nodes : Array GraphNode
  arcCount : Nat
deriving DecidableEq, Repr

namespace Adjacency

/-- The arcs that leave a node; a number that no node has leaves none. -/
def arcs (graph : Adjacency) (node : Nat) : List Arc :=
  match graph.nodes[node]? with
  | some found => found.arcs
  | none => []

def addNode (graph : Adjacency) (id : InstanceId) : Nat × Adjacency :=
  (graph.nodes.size, { graph with nodes := graph.nodes.push ⟨id, []⟩ })

def addArc (graph : Adjacency) (source : Nat) (arc : Arc) : Adjacency where
  nodes := graph.nodes.modify source fun node => { node with arcs := arc :: node.arcs }
  arcCount := graph.arcCount + 1

instance : Multigraph Adjacency where
  empty := ⟨#[], 0⟩
  nodeCount graph := graph.nodes.size
  arcCount := Adjacency.arcCount
  node? graph node := graph.nodes[node]?.map GraphNode.id
  arcs := Adjacency.arcs
  addNode := Adjacency.addNode
  addArc := Adjacency.addArc
  capacity := none

theorem arcs_addNode (graph : Adjacency) (id : InstanceId) (node : Nat) :
    (graph.addNode id).2.arcs node = graph.arcs node := by
  unfold arcs addNode
  rw [Array.getElem?_push]
  by_cases hlast : node = graph.nodes.size
  · rw [if_pos hlast, Array.getElem?_eq_none (Nat.le_of_eq hlast.symm)]
  · rw [if_neg hlast]

theorem arcs_addArc (graph : Adjacency) {source : Nat} (arc : Arc) (node : Nat)
    (hsource : source < graph.nodes.size) :
    (graph.addArc source arc).arcs node =
      if node = source then arc :: graph.arcs node else graph.arcs node := by
  unfold arcs addArc
  rw [Array.getElem?_modify]
  by_cases heq : source = node
  · subst heq
    simp only [Array.getElem?_eq_getElem hsource, if_true, Option.map_some]
  · rw [if_neg heq, if_neg (Ne.symm heq)]

instance : LawfulMultigraph Adjacency where
  nodeCount_empty := rfl
  arcCount_empty := rfl
  arcs_empty _ := rfl
  isSome_node?_iff graph node := by simp [Multigraph.node?, Multigraph.nodeCount]
  fst_addNode _ _ := rfl
  nodeCount_addNode _ _ := Array.size_push _
  arcCount_addNode _ _ := rfl
  node?_addNode {graph} _ id node := by
    simp only [Multigraph.node?, Multigraph.addNode, Multigraph.nodeCount, addNode,
      Array.getElem?_push]
    split
    next => rfl
    next => rfl
  arcs_addNode {graph} _ := graph.arcs_addNode
  nodeCount_addArc _ := Array.size_modify
  node?_addArc _ node := by
    simp only [Multigraph.node?, Multigraph.addArc, addArc, Array.getElem?_modify]
    split
    next =>
      rw [Option.map_map]
      rfl
    next => rfl
  arcCount_addArc _ := rfl
  arcs_addArc {graph _ arc} htakes node := graph.arcs_addArc arc node htakes.source_lt

end Adjacency

end Retention
