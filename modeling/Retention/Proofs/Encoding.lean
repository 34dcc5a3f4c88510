import Mathlib
import Retention.Codec.Chain
import Retention.Codec.RootKey
import Retention.Proofs.Rearranging

/-!
# Decoding undoes encoding

Identities, edges, references, chains, outcomes and keys are all read back from what they
are encoded as, so that an encoding tells which of them it is of. Since the members of an
object have no order of their own, they are read back from any rearrangement too. Where a
member comes before the tag that says what it means, it has to be set aside until the tag
is known, and then there must be room for it.
-/

namespace Retention

open Json

namespace Json

section Recovers

variable {α : Type}

/-- A decoder gives back every value from its encoding, whichever way that is
rearranged. -/
def Recovers (decode : Json → Decoded α) (encode : α → Json) : Prop :=
  ∀ value json, Rearranged (encode value) json → decode json = .ok value

variable {decode : Json → Decoded α} {encode : α → Json}

theorem Recovers.inverts (hrecovers : Recovers decode encode) (value : α) :
    decode (encode value) = .ok value :=
  hrecovers value _ (.same _)

/-- No document is a rearrangement of the encodings of two values. -/
theorem Recovers.separates (hrecovers : Recovers decode encode) {a b : α} {json : Json}
    (ha : Rearranged (encode a) json) (hb : Rearranged (encode b) json) : a = b := by
  have hok : (.ok a : Decoded α) = .ok b := by
    rw [← hrecovers a json ha, ← hrecovers b json hb]
  exact Except.ok.inj hok

theorem decodeItems_of_rearranged (hrecovers : Recovers decode encode) (values : List α)
    {items : List Json} (hitems : ItemsRearranged (values.map encode) items) :
    decodeItems decode items = .ok values := by
  induction values generalizing items with
  | nil =>
      cases hitems
      rfl
  | cons value rest ih =>
      cases hitems with
      | cons hitem hrest => simp [decodeItems, hrecovers value _ hitem, ih hrest]

/-- Lists are read back if their items are. -/
theorem Recovers.asList (hrecovers : Recovers decode encode) :
    Recovers (asList decode) fun values => .ofItems (values.map encode) := by
  intro values json hjson
  obtain ⟨items, hitems, rfl⟩ := hjson.array_inv
  simp [Json.asList, ofItems, decodeItems_of_rearranged hrecovers values hitems]

end Recovers

theorem asWord_nat (expected : String) (word : UInt64) :
    (Json.nat word.toNat).asWord expected = .ok word := by
  have hfits : (word.toNat : Int) < UInt64.size := Int.ofNat_lt.mpr word.toNat_lt_size
  have hword : UInt64.ofNat (word.toNat : Int).toNat = word := by simp
  simp only [Json.nat, asWord, Int.natCast_nonneg, hfits, hword, and_self, if_true]

@[simp] theorem map_ok {α β : Type} (f : α → β) (value : α) :
    (.ok value : Decoded α).map f = .ok (f value) :=
  rfl

@[simp] theorem bind_ok {α β : Type} (value : α) (next : α → Decoded β) :
    ((.ok value : Decoded α) >>= next) = next value :=
  rfl

@[simp] theorem required_some {α : Type} (name : String) (value : α) :
    required name (some value) = .ok value :=
  rfl

end Json

/-! ## Identities and edges -/

namespace InstanceId

theorem recovers : Recovers ofJson toJson := by
  intro id json hjson
  rw [toJson, Json.nat] at hjson
  rw [hjson.integer_inv, ofJson, ← Json.nat, asWord_nat, map_ok]

end InstanceId

namespace Edge

theorem mayBeSetAside_text (delivery : Delivery) (value : String) :
    mayBeSetAside delivery (.text value) = true := by
  cases delivery <;> rfl

theorem mayBeSetAside_integer (delivery : Delivery) (value : Int) :
    mayBeSetAside delivery (.integer value) = true := by
  cases delivery <;> rfl

theorem ofContent_field (name : String) :
    ofContent .field (.object [(.text "name", .text name)] true) = .ok (.field name) := by
  simp [ofContent, Shape.fillFrom, Shape.fillMembers, Shape.field?, fieldShape, Field.of, asText]

theorem ofContent_slot {json : Json} {index : UInt64} (hindex : json.asSize = .ok index) :
    ofContent .slot (.object [(.text "index", json)] true) = .ok (.slot index) := by
  simp [ofContent, Shape.fillFrom, Shape.fillMembers, Shape.field?, slotShape, Field.of, hindex]

/-- The members of an edge are its kind and what it is labelled with, in either order. -/
theorem ofJson_of_perm {delivery : Delivery} {kind : Kind} {tag : Json} {name : String}
    {content : Json} {listed : List (Json × Json)} {edge : Edge}
    (hkind : Kind.ofJson delivery.inside tag = .ok kind) (hname : name ≠ "kind")
    (hsound : mayBeSetAside delivery.inside content = true)
    (hcontent : ofContent kind (.object [(.text name, content)] true) = .ok edge)
    (horder : [(.text "kind", tag), (.text name, content)].Perm listed) :
    ofJson delivery (.object listed true) = .ok edge := by
  rcases List.perm_pair.mp horder.symm with rfl | rfl <;>
    simp [ofJson, splitMembers, hkind, hname, hsound, hcontent]

theorem recovers (delivery : Delivery) : Recovers (ofJson delivery) toJson := by
  intro edge json hjson
  cases edge with
  | field name =>
      obtain ⟨members, listed, hmembers, horder, rfl⟩ := hjson.object_inv
      rcases hmembers with _ | ⟨_, hkind, _ | ⟨_, hname, _ | _⟩⟩
      cases hkind.text_inv
      cases hname.text_inv
      exact ofJson_of_perm rfl (by simp) (mayBeSetAside_text _ name) (ofContent_field name) horder
  | slot index =>
      obtain ⟨members, listed, hmembers, horder, rfl⟩ := hjson.object_inv
      rcases hmembers with _ | ⟨_, hkind, _ | ⟨_, hindex, _ | _⟩⟩
      cases hkind.text_inv
      cases hindex.integer_inv
      exact ofJson_of_perm rfl (by simp) (mayBeSetAside_integer _ _)
        (ofContent_slot (asWord_nat _ index)) horder

end Edge

/-! ## References, steps and hops -/

namespace Reference

theorem orderless_shape : shape.Orderless := by
  refine .of_pairwise ?_ ?_
  · simp [shape, Field.of_settled]
  · simp [shape, Field.of_apart]

theorem recovers (delivery : Delivery) : Recovers (ofJson delivery) toJson := by
  intro reference json hjson
  obtain ⟨members, listed, hmembers, horder, rfl⟩ := hjson.object_inv
  rcases hmembers with _ | ⟨_, hedge, _ | ⟨_, htarget, _ | _⟩⟩
  have hread : shape.fillFrom delivery (none, none) (.object listed true) =
      .ok (some reference.edge, some reference.target) := by
    apply Shape.fillFrom_perm orderless_shape horder
    simp [Shape.fillMembers, Shape.field?, shape, Field.of, Edge.recovers _ _ _ hedge,
      InstanceId.recovers _ _ htarget]
  simp [ofJson, hread]

end Reference

namespace ChainStep

theorem orderless_shape : shape.Orderless := by
  refine .of_pairwise ?_ ?_
  · simp [shape, Field.of_settled]
  · simp [shape, Field.of_apart]

theorem recovers (delivery : Delivery) : Recovers (ofJson delivery) toJson := by
  intro step json hjson
  obtain ⟨members, listed, hmembers, horder, rfl⟩ := hjson.object_inv
  rcases hmembers with _ | ⟨_, hreferrer, _ | ⟨_, hreferent, _ | ⟨_, hedge, _ | _⟩⟩⟩
  have hread : shape.fillFrom delivery (none, none, none) (.object listed true) =
      .ok (some step.referrer, some step.referent, some step.edge) := by
    apply Shape.fillFrom_perm orderless_shape horder
    simp [Shape.fillMembers, Shape.field?, shape, Field.of, InstanceId.recovers _ _ hreferrer,
      InstanceId.recovers _ _ hreferent, Edge.recovers _ _ _ hedge]
  simp [ofJson, hread]

end ChainStep

namespace SkippedHop

theorem orderless_shape : shape.Orderless := by
  refine .of_pairwise ?_ ?_
  · simp [shape, Field.of_settled]
  · simp [shape, Field.of_apart]

theorem recovers (delivery : Delivery) : Recovers (ofJson delivery) toJson := by
  intro hop json hjson
  obtain ⟨members, listed, hmembers, horder, rfl⟩ := hjson.object_inv
  rcases hmembers with _ | ⟨_, hsource, _ | ⟨_, htarget, _ | _⟩⟩
  have hread : shape.fillFrom delivery (none, none) (.object listed true) =
      .ok (some hop.source, some hop.target) := by
    apply Shape.fillFrom_perm orderless_shape horder
    simp [Shape.fillMembers, Shape.field?, shape, Field.of, InstanceId.recovers _ _ hsource,
      InstanceId.recovers _ _ htarget]
  simp [ofJson, hread]

end SkippedHop

/-! ## Chains and outcomes -/

namespace RootChain

theorem orderless_shape : shape.Orderless := by
  refine .of_pairwise ?_ ?_
  · simp [shape, Field.of_settled]
  · simp [shape, Field.of_apart]

theorem recovers (delivery : Delivery) : Recovers (ofJson delivery) toJson := by
  intro chain json hjson
  obtain ⟨members, listed, hmembers, horder, rfl⟩ := hjson.object_inv
  rcases hmembers with
    _ | ⟨_, hstart, _ | ⟨_, hroot, _ | ⟨_, hsteps, _ | ⟨_, hskipped, _ | _⟩⟩⟩⟩
  have hread : shape.fillFrom delivery ⟨none, none, none, none⟩ (.object listed true) =
      .ok ⟨some chain.start, some chain.root, some chain.steps, some chain.skipped⟩ := by
    apply Shape.fillFrom_perm orderless_shape horder
    simp [Shape.fillMembers, Shape.field?, shape, Field.of, InstanceId.recovers _ _ hstart,
      InstanceId.recovers _ _ hroot, (ChainStep.recovers _).asList _ _ hsteps,
      (SkippedHop.recovers _).asList _ _ hskipped]
  simp [ofJson, hread]

/-- A chain has at most four collections inside one another. -/
theorem isSound_toJson (chain : RootChain) (depth : Nat) :
    chain.toJson.isSound (depth + 4) = true := by
  have hedge (edge : Edge) (depth : Nat) : edge.toJson.isSound (depth + 1) = true := by
    cases edge <;> rfl
  have hstep (step : ChainStep) (depth : Nat) : step.toJson.isSound (depth + 2) = true := by
    simp [ChainStep.toJson, ofMembers, isSound, membersAreSound, InstanceId.toJson, Json.nat,
      hedge]
  have hhop (hop : SkippedHop) (depth : Nat) : hop.toJson.isSound (depth + 1) = true := by
    rfl
  simp [toJson, ofMembers, ofItems, isSound, membersAreSound, areSound_eq_all, hstep, hhop,
    InstanceId.toJson, Json.nat]

end RootChain

namespace PathOutcome

/-- What a delivery needs for a chain to be set aside. -/
def Roomy (delivery : Delivery) : Prop :=
  ∀ chain : RootChain, Edge.mayBeSetAside delivery.inside chain.toJson = true

theorem roomy_setAside : Roomy .setAside :=
  fun _ => rfl

theorem roomy_direct (depth : Nat) : Roomy (.direct (depth + 5)) :=
  fun chain => chain.isSound_toJson depth

theorem mayBeSetAside_of_rearranged {delivery : Delivery} {json json' : Json}
    (hjson : Rearranged json json') :
    Edge.mayBeSetAside delivery json' = Edge.mayBeSetAside delivery json := by
  cases delivery with
  | direct depth => exact hjson.isSound_eq depth
  | setAside => rfl

theorem nameChoice_of_mem {name : String} {case : Case} (hmem : (name, case) ∈ caseNames) :
    nameChoice caseNames (.text name) = .ok case := by
  simp only [caseNames, List.mem_cons, List.not_mem_nil, or_false, Prod.mk.injEq] at hmem
  rcases hmem with ⟨rfl, rfl⟩ | ⟨rfl, rfl⟩ | ⟨rfl, rfl⟩ <;>
    simp [nameChoice, choice, caseNames, variantName, withoutContent, List.lookup]

theorem ofJson_bare (delivery : Delivery) {name : String} {case : Case} {outcome : PathOutcome}
    (hmem : (name, case) ∈ caseNames) (hbare : withoutChain case = .ok outcome)
    {listed : List (Json × Json)} (horder : [(.text "outcome", .text name)].Perm listed) :
    ofJson delivery (.object listed true) = .ok outcome := by
  rw [← List.singleton_perm.mp horder]
  simp [ofJson, fromMembers, Draft.name, nameChoice_of_mem hmem, Draft.finish, hbare]

/-- A chain may come before or behind the word that says there is one. In the first case
it is set aside and decoded from there. -/
theorem ofJson_chain {delivery : Delivery} {json : Json} {found : RootChain}
    (hsound : Edge.mayBeSetAside delivery.inside json = true)
    (hfound : ∀ delivery, RootChain.ofJson delivery json = .ok found)
    {listed : List (Json × Json)}
    (horder : [(.text "outcome", .text "chain"), (.text "chain", json)].Perm listed) :
    ofJson delivery (.object listed true) = .ok (.chain found) := by
  have hcase : nameChoice caseNames (.text "chain") = .ok .chain :=
    nameChoice_of_mem (by simp [caseNames])
  rcases List.perm_pair.mp horder.symm with rfl | rfl <;>
    simp [ofJson, fromMembers, Draft.name, Draft.addContent, hcase, ofContent, hfound, hsound,
      Draft.finish]

theorem recovers {delivery : Delivery} (hroomy : Roomy delivery) :
    Recovers (ofJson delivery) toJson := by
  intro outcome json hjson
  cases outcome with
  | noRoot =>
      obtain ⟨members, listed, hmembers, horder, rfl⟩ := hjson.object_inv
      rcases hmembers with _ | ⟨_, htag, _ | _⟩
      cases htag.text_inv
      have hmem : ("no_root", Case.noRoot) ∈ caseNames := by simp [caseNames]
      exact ofJson_bare delivery hmem rfl horder
  | isRoot =>
      obtain ⟨members, listed, hmembers, horder, rfl⟩ := hjson.object_inv
      rcases hmembers with _ | ⟨_, htag, _ | _⟩
      cases htag.text_inv
      have hmem : ("is_root", Case.isRoot) ∈ caseNames := by simp [caseNames]
      exact ofJson_bare delivery hmem rfl horder
  | chain found =>
      obtain ⟨members, listed, hmembers, horder, rfl⟩ := hjson.object_inv
      rcases hmembers with _ | ⟨_, htag, _ | ⟨_, hfound, _ | _⟩⟩
      cases htag.text_inv
      have hsound := (mayBeSetAside_of_rearranged hfound).trans (hroomy found)
      exact ofJson_chain hsound (fun delivery => RootChain.recovers delivery found _ hfound) horder

end PathOutcome

namespace RootKey

theorem ofJson_root {json : Json} {id : InstanceId} (hid : InstanceId.ofJson json = .ok id) :
    ofJson (.object [(.text "root", json)] true) = .ok (.root id) := by
  simp [ofJson, choice, variantName, hid]

theorem recovers : Recovers ofJson toJson := by
  intro key json hjson
  cases key with
  | root id =>
      obtain ⟨members, listed, hmembers, horder, rfl⟩ := hjson.object_inv
      rcases hmembers with _ | ⟨_, hid, _ | _⟩
      cases List.singleton_perm.mp horder
      exact ofJson_root (InstanceId.recovers _ _ hid)
  | unreachable =>
      cases hjson.text_inv
      simp [ofJson, choice, variantName, withoutContent]

end RootKey

/-! ## All of them -/

/-- Decoding undoes encoding: an encoding is decoded as what it encodes, so is any
rearrangement of it, and neither two encodings nor any rearrangements of them coincide
unless they are of the same value. -/
structure Json.Undoes {α : Type} (decode : Json → Decoded α) (encode : α → Json) : Prop where
  inverts : ∀ value, decode (encode value) = .ok value
  recovers : ∀ value json, Rearranged (encode value) json → decode json = .ok value
  injective : ∀ a b, encode a = encode b → a = b
  separates : ∀ a b json, Rearranged (encode a) json → Rearranged (encode b) json → a = b

theorem Json.Recovers.undoes {α : Type} {decode : Json → Decoded α} {encode : α → Json}
    (hrecovers : Recovers decode encode) : Undoes decode encode where
  inverts := hrecovers.inverts
  recovers := hrecovers
  injective a b hsame := hrecovers.separates (.same (encode a)) (hsame ▸ .same (encode b))
  separates _ _ _ ha hb := hrecovers.separates ha hb

/-- Whatever an analysis gives is decoded from its encoding, however it is delivered and in
whatever order its members are listed. Only an outcome, which may be listed with its chain
in front, has to come where there is room to set a chain aside. -/
theorem decoding_undoes_encoding :
    Undoes (PathOutcome.ofJson .document) PathOutcome.toJson ∧
      Undoes (PathOutcome.ofJson .setAside) PathOutcome.toJson ∧
      (∀ delivery, Undoes (RootChain.ofJson delivery) RootChain.toJson) ∧
      (∀ delivery, Undoes (ChainStep.ofJson delivery) ChainStep.toJson) ∧
      (∀ delivery, Undoes (SkippedHop.ofJson delivery) SkippedHop.toJson) ∧
      (∀ delivery, Undoes (Reference.ofJson delivery) Reference.toJson) ∧
      (∀ delivery, Undoes (Edge.ofJson delivery) Edge.toJson) ∧
      Undoes RootKey.ofJson RootKey.toJson ∧
      Undoes InstanceId.ofJson InstanceId.toJson := by
  refine ⟨?outcome, ?outcomeSetAside, ?chain, ?step, ?hop, ?reference, ?edge, ?key, ?id⟩
  case outcome => exact (PathOutcome.recovers (PathOutcome.roomy_direct 122)).undoes
  case outcomeSetAside => exact (PathOutcome.recovers PathOutcome.roomy_setAside).undoes
  case chain => exact fun delivery => (RootChain.recovers delivery).undoes
  case step => exact fun delivery => (ChainStep.recovers delivery).undoes
  case hop => exact fun delivery => (SkippedHop.recovers delivery).undoes
  case reference => exact fun delivery => (Reference.recovers delivery).undoes
  case edge => exact fun delivery => (Edge.recovers delivery).undoes
  case key => exact RootKey.recovers.undoes
  case id => exact InstanceId.recovers.undoes

end Retention
