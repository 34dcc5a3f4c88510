import Retention.Codec.Reference
import Retention.Settings

/-!
# Settings as JSON

Settings are a record of which any part may be left out; what is left out keeps its
default. Fields of other names are refused.
-/

namespace Retention

open Json

def MissingEdgePolicy.names : List (String × MissingEdgePolicy) :=
  [("skip", .skip), ("fail", .fail)]

def MissingEdgePolicy.label : MissingEdgePolicy → String
  | .skip => "skip"
  | .fail => "fail"

def OverflowMode.names : List (String × OverflowMode) :=
  [("truncate", .truncate), ("windows", .windows)]

def OverflowMode.label : OverflowMode → String
  | .truncate => "truncate"
  | .windows => "windows"

namespace Settings

def fieldNames : List String :=
  ["max-page-nodes", "missing-edge", "overflow", "max-root-distance",
    "parallel-aggregation"]

def title : String :=
  "struct EngineConfig"

/-- Settings are encoded in full. -/
def toJson (settings : Settings) : Json :=
  .ofMembers [("max-page-nodes", .ofSize settings.maxPageNodes),
    ("missing-edge", .text settings.missingEdge.label),
    ("overflow", .text settings.overflow.label),
    ("max-root-distance", .ofSize settings.maxRootDistance),
    ("parallel-aggregation", .bool settings.parallelAggregation)]

/-- Settings of which some are given. -/
structure Draft where
  maxPageNodes : Option UInt64
  missingEdge : Option MissingEdgePolicy
  overflow : Option OverflowMode
  maxRootDistance : Option UInt64
  parallelAggregation : Option Bool

namespace Draft

def blank : Draft :=
  ⟨none, none, none, none, none⟩

def complete (draft : Draft) : Settings where
  maxPageNodes := draft.maxPageNodes.getD default.maxPageNodes
  missingEdge := draft.missingEdge.getD default.missingEdge
  overflow := draft.overflow.getD default.overflow
  maxRootDistance := draft.maxRootDistance.getD default.maxRootDistance
  parallelAggregation := draft.parallelAggregation.getD default.parallelAggregation

end Draft

def shape : Shape Draft where
  title := title
  fields :=
    [.of "max-page-nodes" (fun _ => Json.asSize) (·.maxPageNodes)
        fun size r => { r with maxPageNodes := some size },
      .of "missing-edge" (fun _ => nameChoice MissingEdgePolicy.names) (·.missingEdge)
        fun policy r => { r with missingEdge := some policy },
      .of "overflow" (fun _ => nameChoice OverflowMode.names) (·.overflow)
        fun mode r => { r with overflow := some mode },
      .of "max-root-distance" (fun _ => Json.asSize) (·.maxRootDistance)
        fun size r => { r with maxRootDistance := some size },
      .of "parallel-aggregation" (fun _ => Json.asBool) (·.parallelAggregation)
        fun flag r => { r with parallelAggregation := some flag }]
  strict := true
  lenient := true

def ofJson (json : Json) : Decoded Settings :=
  (shape.fillFrom .document .blank json).map Draft.complete

end Settings

end Retention
