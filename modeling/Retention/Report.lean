import Retention.Chain
import Retention.Failure
import Retention.Groups

/-!
# Reports

What a viewer shows for an analysis. A report folds results together with the ends that
a user does not regard as errors.
-/

namespace Retention

/-- The result of an analysis, ready to be shown. -/
inductive Report where
  /-- No root reaches anything that was asked for. -/
  | noRoot
  /-- The instance is a root itself. -/
  | isRoot
  /-- The path from the instance to its root. -/
  | path (chain : RootChain)
  /-- All instances share one key, so no grouping is shown. -/
  | singleGroup (group : RootGroup)
  /-- The instances grouped by root. -/
  | groups (partition : RootGroups)
  /-- Aggregation ran out of memory; nothing partial is kept. -/
  | outOfMemory

namespace Report

def ofOutcome : PathOutcome → Report
  | .noRoot => .noRoot
  | .isRoot => .isRoot
  | .chain chain => .path chain

/-- The report of an aggregation, in which a lone group stands for itself. -/
def ofGroups (groups : RootGroups) : Report :=
  match groups.groups.toList with
  | [] => .noRoot
  | [group] => .singleGroup group
  | _ => .groups groups

def isRootLabel : String :=
  "<node is GC root>"

def display : Report → String
  | .noRoot => RootKey.noRootLabel
  | .isRoot => isRootLabel
  | .outOfMemory => Failure.outOfMemoryLabel
  | .path chain =>
      chain.start.display ++ " -> " ++ chain.root.display
        ++ " (" ++ chain.length.repr ++ " steps)"
  | .singleGroup group =>
      group.key.display ++ " (" ++ group.count.repr ++ " instances)"
  | .groups partition =>
      partition.size.repr ++ " GC roots (" ++ partition.totalMembers.repr ++ " instances)"

end Report

end Retention
