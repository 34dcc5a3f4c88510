import Retention.Json.Reader
import Retention.Mismatch

/-!
# Decoding JSON

The pieces that decoders of particular types are made of. A decoder goes through a value
in the order of the document and stops at the first problem: a mismatch between a
well-formed part and what is expected, or a place where the document itself is at fault.

Content whose meaning depends on a tag that may stand behind it is set aside first. It
is then known to be sound throughout, and a decoder treats it a little differently from
what it reads directly.
-/

namespace Retention

/-- Why a JSON document gives no value of a type. -/
inductive DecodeError where
  /-- The document, or the way it encodes a choice, is not well formed. -/
  | malformed
  /-- The document does not describe a value of the type. -/
  | mismatch (reason : Mismatch)
deriving DecidableEq, Repr

namespace Json

/-- The words in which mismatches with JSON are described. -/
def wording : Wording :=
  ⟨"null", .compact⟩

/-- How content comes to a decoder. -/
inductive Delivery where
  /-- Straight from the document, with room for so many collections inside one another. -/
  | direct (depth : Nat)
  /-- Set aside earlier and found sound. -/
  | setAside
deriving DecidableEq, Repr

namespace Delivery

/-- The delivery of a whole document, which has room for 127 collections. -/
def document : Delivery :=
  .direct 127

def inside : Delivery → Delivery
  | .direct depth => .direct (depth - 1)
  | .setAside => .setAside

end Delivery

/-- What a decoder makes of a document. -/
abbrev Decoded (α : Type) : Type :=
  Except DecodeError α

def refuse {α : Type} (reason : Mismatch) : Decoded α :=
  .error (.mismatch reason)

def finding? : Json → Option Finding
  | .null => some .nothing
  | .bool value => some (.boolean value)
  | .integer value => some (.integer value)
  | .real value => some (.real value)
  | .text value => some (.text value)
  | .array _ _ => some .sequence
  | .object _ _ => some .mapping
  | .unusable => none
  | .malformed => none

def refuseType {α : Type} (json : Json) (expected : String) : Decoded α :=
  match json.finding? with
  | some found => refuse (.invalidType found expected)
  | none => .error .malformed

/-! ## Simple values -/

/-- Decodes an unsigned sixty-four bit number, known as `expected`. -/
def asWord (expected : String) : Json → Decoded UInt64
  | .integer value =>
      if 0 ≤ value ∧ value < UInt64.size then .ok (UInt64.ofNat value.toNat)
      else refuse (.invalidValue (.integer value) expected)
  | json => json.refuseType expected

def asText : Json → Decoded String
  | .text value => .ok value
  | json => json.refuseType "a string"

def asBool : Json → Decoded Bool
  | .bool value => .ok value
  | json => json.refuseType "a boolean"

def decodeItems {α : Type} (decode : Json → Decoded α) : List Json → Decoded (List α)
  | [] => .ok []
  | item :: rest =>
      match decode item with
      | .error error => .error error
      | .ok value =>
          match decodeItems decode rest with
          | .error error => .error error
          | .ok values => .ok (value :: values)

def asList {α : Type} (decode : Json → Decoded α) : Json → Decoded (List α)
  | .array items closed =>
      match decodeItems decode items with
      | .error error => .error error
      | .ok values => if closed then .ok values else .error .malformed
  | json => json.refuseType "a sequence"

/-! ## Records -/

/-- A field of a record of type `ρ` under construction. -/
structure Field (ρ : Type) where
  name : String
  /-- Whether the field has been filled. -/
  isFilled : ρ → Bool
  /-- Decodes a value into the field. -/
  fill : Delivery → Json → ρ → Decoded ρ

/-- A field read by `decode` and held by the component of `ρ` that `get` and `set`
reach. -/
def Field.of {ρ α : Type} (name : String) (decode : Delivery → Json → Decoded α)
    (get : ρ → Option α) (set : α → ρ → ρ) : Field ρ where
  name := name
  isFilled record := (get record).isSome
  fill delivery json record := (decode delivery json).map (set · record)

/-- How the record type is known and which fields it has. -/
structure Shape (ρ : Type) where
  /-- The words for the record type. -/
  title : String
  fields : List (Field ρ)
  /-- Whether only known fields may be given. -/
  strict : Bool
  /-- Whether an array may end before the last field. -/
  lenient : Bool

namespace Shape

variable {ρ : Type}

def field? (shape : Shape ρ) (name : String) : Option (Field ρ) :=
  shape.fields.find? fun field => field.name = name

def elements (count : Nat) : String :=
  count.repr ++ (if count = 1 then " element" else " elements")

/-- Fills a record from members, from left to right. -/
def fillMembers (shape : Shape ρ) (delivery : Delivery) :
    List (Json × Json) → Bool → ρ → Decoded ρ
  | [], closed, record => if closed then .ok record else .error .malformed
  | (.text name, value) :: rest, closed, record =>
      match shape.field? name with
      | some field =>
          if field.isFilled record then refuse (.duplicateField name)
          else
            match field.fill delivery value record with
            | .error error => .error error
            | .ok record => shape.fillMembers delivery rest closed record
      | none =>
          if shape.strict then
            refuse (.unknownField name (shape.fields.map Field.name))
          else if value.isSkippable then shape.fillMembers delivery rest closed record
          else .error .malformed
  | _, _, _ => .error .malformed

/-- Fills the fields of a record from items, in their order. `count` items have been
used. Surplus items break the form of a document, or, in content set aside, do not
match. -/
def fillItems (shape : Shape ρ) (delivery : Delivery) :
    List (Field ρ) → List Json → Bool → Nat → ρ → Decoded ρ
  | field :: fields, item :: items, closed, count, record =>
      match field.fill delivery item record with
      | .error error => .error error
      | .ok record => shape.fillItems delivery fields items closed (count + 1) record
  | [], items, closed, count, record =>
      if items.isEmpty && closed then .ok record
      else
        match delivery with
        | .direct _ => .error .malformed
        | .setAside =>
            refuse (.invalidLength (count + items.length) (elements count ++ " in sequence"))
  | _ :: _, [], closed, count, record =>
      if !closed then .error .malformed
      else if shape.lenient then .ok record
      else
        refuse (.invalidLength count
          (shape.title ++ " with " ++ elements shape.fields.length))

/-- Fills a record from an object, or from an array of its fields in order. -/
def fillFrom (shape : Shape ρ) (delivery : Delivery) (blank : ρ) : Json → Decoded ρ
  | .object members closed => shape.fillMembers delivery.inside members closed blank
  | .array items closed => shape.fillItems delivery.inside shape.fields items closed 0 blank
  | json => json.refuseType shape.title

end Shape

def required {α : Type} (name : String) : Option α → Decoded α
  | some value => .ok value
  | none => refuse (.missingField name)

/-! ## Choices -/

def variantName (known : List String) : Json → Decoded String
  | .text name => if name ∈ known then .ok name else refuse (.unknownVariant name known)
  | json => json.refuseType "variant identifier"

/-- Decodes a choice: a bare name, or an object whose only key is the name and whose value
is the content. -/
def choice {α : Type} (known : List String) (decode : String → Option Json → Decoded α) :
    Json → Decoded α
  | .text name =>
      match variantName known (.text name) with
      | .error error => .error error
      | .ok name => decode name none
  | .object ((.text name, value) :: rest) closed =>
      match variantName known (.text name) with
      | .error error => .error error
      | .ok name =>
          match decode name (some value) with
          | .error error => .error error
          | .ok result => if rest.isEmpty && closed then .ok result else .error .malformed
  | _ => .error .malformed

/-- Accepts the content of a variant that has none. -/
def withoutContent {α : Type} (value : α) : Option Json → Decoded α
  | none => .ok value
  | some .null => .ok value
  | some json => json.refuseType "unit"

def nameChoice {α : Type} (variants : List (String × α)) : Json → Decoded α :=
  choice (variants.map Prod.fst) fun name content =>
    match variants.lookup name with
    | some value => withoutContent value content
    | none => .error .malformed

/-! ## Documents -/

/-- Reads a text that is to be one document of a type. -/
def readAs {α : Type} (decode : Json → Decoded α) (text : String) : Decoded α :=
  let (json, ends) := read text
  match decode json with
  | .error error => .error error
  | .ok value => if ends then .ok value else .error .malformed

end Json

end Retention
