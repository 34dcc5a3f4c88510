import Retention.Chain
import Retention.Codec.Reference

/-!
# Chains as JSON

Steps, skipped hops and chains are records. An outcome names its case in the member
`outcome` and keeps a chain in the member `chain`; either may come first, and members of
other names are skipped.
-/

namespace Retention

open Json

namespace ChainStep

/-- A step is encoded as its referrer, its referent and its edge. -/
def toJson (step : ChainStep) : Json :=
  .ofMembers [("referrer", step.referrer.toJson), ("referent", step.referent.toJson),
    ("edge", step.edge.toJson)]

def shape : Shape (Option InstanceId × Option InstanceId × Option Edge) where
  title := "struct ChainEdge"
  fields :=
    [.of "referrer" (fun _ => InstanceId.ofJson) (·.1) fun id r => (some id, r.2),
      .of "referent" (fun _ => InstanceId.ofJson) (·.2.1) fun id r => (r.1, some id, r.2.2),
      .of "edge" Edge.ofJson (·.2.2) fun edge r => (r.1, r.2.1, some edge)]
  strict := false
  lenient := false

def ofJson (delivery : Delivery) (json : Json) : Decoded ChainStep := do
  let (referrer, referent, edge) ← shape.fillFrom delivery (none, none, none) json
  return ⟨← required "referrer" referrer, ← required "referent" referent,
    ← required "edge" edge⟩

end ChainStep

namespace SkippedHop

/-- A skipped hop is encoded as its two ends. -/
def toJson (hop : SkippedHop) : Json :=
  .ofMembers [("from", hop.source.toJson), ("to", hop.target.toJson)]

def shape : Shape (Option InstanceId × Option InstanceId) where
  title := "struct SkippedHop"
  fields :=
    [.of "from" (fun _ => InstanceId.ofJson) (·.1) fun id r => (some id, r.2),
      .of "to" (fun _ => InstanceId.ofJson) (·.2) fun id r => (r.1, some id)]
  strict := false
  lenient := false

def ofJson (delivery : Delivery) (json : Json) : Decoded SkippedHop := do
  let (source, target) ← shape.fillFrom delivery (none, none) json
  return ⟨← required "from" source, ← required "to" target⟩

end SkippedHop

namespace RootChain

/-- A chain is encoded as its ends, its steps and its skipped hops. -/
def toJson (chain : RootChain) : Json :=
  .ofMembers [("start", chain.start.toJson), ("root", chain.root.toJson),
    ("edges", .ofItems (chain.steps.map ChainStep.toJson)),
    ("skipped", .ofItems (chain.skipped.map SkippedHop.toJson))]

/-- A chain under construction. -/
structure Draft where
  start : Option InstanceId
  root : Option InstanceId
  steps : Option (List ChainStep)
  skipped : Option (List SkippedHop)

def shape : Shape Draft where
  title := "struct RootChain"
  fields :=
    [.of "start" (fun _ => InstanceId.ofJson) (·.start) fun id r => { r with start := some id },
      .of "root" (fun _ => InstanceId.ofJson) (·.root) fun id r => { r with root := some id },
      .of "edges" (fun delivery => asList (ChainStep.ofJson delivery.inside)) (·.steps)
        fun steps r => { r with steps := some steps },
      .of "skipped" (fun delivery => asList (SkippedHop.ofJson delivery.inside)) (·.skipped)
        fun skipped r => { r with skipped := some skipped }]
  strict := false
  lenient := false

def ofJson (delivery : Delivery) (json : Json) : Decoded RootChain := do
  let draft ← shape.fillFrom delivery ⟨none, none, none, none⟩ json
  return ⟨← required "start" draft.start, ← required "root" draft.root,
    ← required "edges" draft.steps, ← required "skipped" draft.skipped⟩

end RootChain

namespace PathOutcome

/-- The three cases of an outcome. -/
inductive Case where
  | noRoot
  | isRoot
  | chain
deriving DecidableEq, Repr

def caseNames : List (String × Case) :=
  [("no_root", .noRoot), ("is_root", .isRoot), ("chain", .chain)]

/-- An outcome is encoded as its case and, if there is one, its chain. -/
def toJson : PathOutcome → Json
  | .noRoot => .ofMembers [("outcome", .text "no_root")]
  | .isRoot => .ofMembers [("outcome", .text "is_root")]
  | .chain found => .ofMembers [("outcome", .text "chain"), ("chain", found.toJson)]

def emptyContent (outcome : PathOutcome) (title : String) : Json → Decoded PathOutcome
  | .null => .ok outcome
  | json => json.refuseType title

def ofContent (delivery : Delivery) : Case → Json → Decoded PathOutcome
  | .noRoot, content => emptyContent .noRoot "unit variant PathOutcome::NoRoot" content
  | .isRoot, content => emptyContent .isRoot "unit variant PathOutcome::IsRoot" content
  | .chain, content => (RootChain.ofJson delivery content).map .chain

def withoutChain : Case → Decoded PathOutcome
  | .noRoot => .ok .noRoot
  | .isRoot => .ok .isRoot
  | .chain => refuse (.missingField "chain")

/-- What has been decoded of an outcome. -/
inductive Draft where
  /-- Neither case nor content. -/
  | blank
  /-- The case. -/
  | named (case : Case)
  /-- The content, set aside until the case is known. -/
  | pending (content : Json)
  /-- Everything. -/
  | complete (outcome : PathOutcome)

def Draft.name (delivery : Delivery) (value : Json) : Draft → Decoded Draft
  | .blank => (nameChoice caseNames value).map .named
  | .pending content =>
      match nameChoice caseNames value with
      | .error error => .error error
      | .ok case => (ofContent delivery case content).map .complete
  | .named _ => refuse (.duplicateField "outcome")
  | .complete _ => refuse (.duplicateField "outcome")

def Draft.addContent (delivery : Delivery) (value : Json) : Draft → Decoded Draft
  | .blank =>
      if Edge.mayBeSetAside delivery value then .ok (.pending value) else .error .malformed
  | .named case => (ofContent delivery case value).map .complete
  | .pending _ => refuse (.duplicateField "chain")
  | .complete _ => refuse (.duplicateField "chain")

def Draft.finish : Draft → Decoded PathOutcome
  | .blank => refuse (.missingField "outcome")
  | .named case => withoutChain case
  | .pending _ => refuse (.missingField "outcome")
  | .complete outcome => .ok outcome

def fromMembers (delivery : Delivery) :
    List (Json × Json) → Bool → Draft → Decoded PathOutcome
  | [], closed, draft => if closed then draft.finish else .error .malformed
  | (.text name, value) :: rest, closed, draft =>
      if name = "outcome" then
        match draft.name .setAside value with
        | .error error => .error error
        | .ok draft => fromMembers delivery rest closed draft
      else if name = "chain" then
        match draft.addContent delivery value with
        | .error error => .error error
        | .ok draft => fromMembers delivery rest closed draft
      else if value.isSkippable then fromMembers delivery rest closed draft
      else .error .malformed
  | _, _, _ => .error .malformed

/-- Accepts the case of an outcome that is written as an array. -/
def itemCase (item : Json) : Decoded Case :=
  match variantName (caseNames.map Prod.fst) item with
  | .error error => .error error
  | .ok name =>
      match caseNames.lookup name with
      | some case => .ok case
      | none => .error .malformed

def ofJson (delivery : Delivery) : Json → Decoded PathOutcome
  | .object members closed => fromMembers delivery.inside members closed .blank
  | .array items closed =>
      let missing (count : Nat) : Decoded PathOutcome :=
        if closed then refuse (.invalidLength count "adjacently tagged enum PathOutcome")
        else .error .malformed
      match items with
      | [] => missing 0
      | [name] => do
          let _ ← itemCase name
          missing 1
      | name :: content :: rest => do
          let case ← itemCase name
          let outcome ← ofContent delivery.inside case content
          if rest.isEmpty && closed then .ok outcome else .error .malformed
  | json => json.refuseType "adjacently tagged enum PathOutcome"

end PathOutcome

end Retention
