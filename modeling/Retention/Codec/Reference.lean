import Retention.Json.Decode
import Retention.Reference

/-!
# References as JSON

An identity is a bare number. An edge is an object whose member `kind` names the kind of
edge and decides what the other members mean; since it may come last, the others are set
aside until it is known. An edge may also be an array that starts with its kind.
-/

namespace Retention

open Json

namespace InstanceId

/-- An identity is encoded as its number. -/
def toJson (id : InstanceId) : Json :=
  .nat id.raw.toNat

def ofJson (json : Json) : Decoded InstanceId :=
  (json.asWord "u64").map InstanceId.mk

end InstanceId

def Json.ofSize (size : UInt64) : Json :=
  .nat size.toNat

def Json.asSize (json : Json) : Decoded UInt64 :=
  json.asWord "usize"

namespace Edge

/-- The kinds of edge. -/
inductive Kind where
  | field
  | slot
deriving DecidableEq, Repr

def kindNames : List String :=
  ["field", "array_index"]

def Kind.ofName (name : String) : Decoded Kind :=
  if name = "field" then .ok .field
  else if name = "array_index" then .ok .slot
  else refuse (.unknownVariant name kindNames)

/-- Decodes a kind. In content that was set aside a kind may also be given by number. -/
def Kind.ofJson (delivery : Delivery) : Json → Decoded Kind
  | .text name => Kind.ofName name
  | .integer value =>
      if delivery = .setAside ∧ 0 ≤ value then
        if value = 0 then .ok .field
        else if value = 1 then .ok .slot
        else refuse (.invalidValue (.integer value) "variant index 0 <= i < 2")
      else (Json.integer value).refuseType "variant identifier"
  | json => json.refuseType "variant identifier"

/-- An edge is encoded as its kind and then its name or index. -/
def toJson : Edge → Json
  | .field name => .ofMembers [("kind", .text "field"), ("name", .text name)]
  | .slot index => .ofMembers [("kind", .text "array_index"), ("index", .ofSize index)]

def fieldShape : Shape (Option String) where
  title := "struct variant ReferenceEdge::Field"
  fields := [.of "name" (fun _ json => json.asText) id fun name _ => some name]
  strict := false
  lenient := false

def slotShape : Shape (Option UInt64) where
  title := "struct variant ReferenceEdge::ArrayIndex"
  fields := [.of "index" (fun _ json => json.asSize) id fun index _ => some index]
  strict := false
  lenient := false

/-- Decodes the content of an edge of a known kind. -/
def ofContent (kind : Kind) (content : Json) : Decoded Edge :=
  match kind with
  | .field => do
      let name ← fieldShape.fillFrom .setAside none content
      (required "name" name).map Edge.field
  | .slot => do
      let index ← slotShape.fillFrom .setAside none content
      (required "index" index).map Edge.slot

/-- Whether content may be set aside. -/
def mayBeSetAside (delivery : Delivery) (content : Json) : Bool :=
  match delivery with
  | .direct depth => content.isSound depth
  | .setAside => true

/-- Goes through the members of an edge: the first `kind` is decoded, and the others are
set aside, latest first. -/
def splitMembers (delivery : Delivery) :
    List (Json × Json) → Bool → Option Kind → List (Json × Json) →
      Decoded (Kind × List (Json × Json))
  | [], closed, kind, others =>
      if closed then (required "kind" kind).map fun kind => (kind, others.reverse)
      else .error .malformed
  | (.text name, value) :: rest, closed, kind, others =>
      if name = "kind" then
        match kind with
        | some _ => refuse (.duplicateField name)
        | none =>
            match Kind.ofJson delivery value with
            | .error error => .error error
            | .ok kind => splitMembers delivery rest closed (some kind) others
      else if mayBeSetAside delivery value then
        splitMembers delivery rest closed kind ((.text name, value) :: others)
      else .error .malformed
  | _, _, _, _ => .error .malformed

def ofJson (delivery : Delivery) : Json → Decoded Edge
  | .object members closed => do
      let (kind, others) ← splitMembers delivery.inside members closed none []
      ofContent kind (.object others true)
  | .array [] closed => if closed then refuse (.missingField "kind") else .error .malformed
  | .array (first :: rest) closed => do
      let kind ← Kind.ofJson delivery.inside first
      if closed && rest.all (mayBeSetAside delivery.inside) then ofContent kind (.array rest true)
      else .error .malformed
  | json => json.refuseType "internally tagged enum ReferenceEdge"

end Edge

namespace Reference

/-- A reference is encoded as its edge and its target. -/
def toJson (reference : Reference) : Json :=
  .ofMembers [("edge", reference.edge.toJson), ("target", reference.target.toJson)]

def shape : Shape (Option Edge × Option InstanceId) where
  title := "struct Reference"
  fields :=
    [.of "edge" Edge.ofJson (·.1) fun edge r => (some edge, r.2),
      .of "target" (fun _ => InstanceId.ofJson) (·.2) fun target r => (r.1, some target)]
  strict := false
  lenient := false

def ofJson (delivery : Delivery) (json : Json) : Decoded Reference := do
  let (edge, target) ← shape.fillFrom delivery (none, none) json
  return ⟨← required "edge" edge, ← required "target" target⟩

end Reference

end Retention
