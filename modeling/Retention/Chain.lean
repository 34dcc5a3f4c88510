import Retention.Reference

/-!
# Chains to a root

A chain is what a walk along nearest-root pointers leaves behind: the steps whose
reference was found in the heap and, separately, the hops that had none. Both lists
keep the order of the walk.
-/

namespace Retention

/-- One step of a chain: `referrer` holds `referent` through `edge`. -/
structure ChainStep where
  referrer : InstanceId
  referent : InstanceId
  edge : Edge
deriving DecidableEq, Repr

/-- A hop that the nearest-root pointers claim and the references do not show. -/
structure SkippedHop where
  source : InstanceId
  target : InstanceId
deriving DecidableEq, Repr

/-- One hop of a walk, found among the references or skipped. -/
inductive Hop where
  | found (step : ChainStep)
  | skipped (hop : SkippedHop)
deriving DecidableEq, Repr

namespace Hop

def step? : Hop → Option ChainStep
  | .found step => some step
  | .skipped _ => none

def skipped? : Hop → Option SkippedHop
  | .found _ => none
  | .skipped hop => some hop

end Hop

/-- The chain of references from a start instance to its root. -/
structure RootChain where
  start : InstanceId
  root : InstanceId
  steps : List ChainStep
  skipped : List SkippedHop
deriving DecidableEq, Repr

namespace RootChain

/-- The chain of a finished walk: its hops, sorted into steps and skipped hops. -/
def ofHops (start root : InstanceId) (hops : List Hop) : RootChain where
  start := start
  root := root
  steps := hops.filterMap Hop.step?
  skipped := hops.filterMap Hop.skipped?

/-- The number of recorded steps. Skipped hops do not count. -/
def length (chain : RootChain) : Nat :=
  chain.steps.length

def isEmpty (chain : RootChain) : Bool :=
  chain.steps.isEmpty

/-- Whether every hop toward the root was found in the heap. -/
def isComplete (chain : RootChain) : Bool :=
  chain.skipped.isEmpty

/-- The last recorded step, the one nearest the root. -/
def terminal? (chain : RootChain) : Option ChainStep :=
  chain.steps.getLast?

/-- The start, followed by the referent of each recorded step. -/
def instances (chain : RootChain) : List InstanceId :=
  chain.start :: chain.steps.map ChainStep.referent

def labels (chain : RootChain) : List String :=
  chain.steps.map fun step => step.edge.label

end RootChain

/-- What looking for the path from one instance to its root comes to. -/
inductive PathOutcome where
  /-- No root reaches the instance. -/
  | noRoot
  /-- The instance is a root itself. -/
  | isRoot
  /-- The chain leading to the instance's nearest root. -/
  | chain (found : RootChain)
deriving DecidableEq, Repr

def PathOutcome.chain? : PathOutcome → Option RootChain
  | .noRoot => none
  | .isRoot => none
  | .chain found => some found

end Retention
