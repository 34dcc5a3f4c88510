import Retention.Json.Decode

/-!
# The order of members

The members of an object have no order of their own: what writes or keeps a document may
list them as it likes, and a record has to be read as the same record. It is whenever its
fields do not get in each other's way.

The order of members is a matter of two of them next to each other. Reading a record from
such a pair comes to the same in either order if it comes to a record at all; a run over
more members follows by induction on how they were moved.
-/

namespace Retention.Json

/-! ## Documents up to the order of members -/

mutual

/-- The second document is the first with members of objects moved. -/
inductive Rearranged : Json → Json → Prop where
  | same (json : Json) : Rearranged json json
  | array {items items' : List Json} (closed : Bool) (hitems : ItemsRearranged items items') :
      Rearranged (.array items closed) (.array items' closed)
  | object {members members' listed : List (Json × Json)} (closed : Bool)
      (hmembers : MembersRearranged members members') (horder : members'.Perm listed) :
      Rearranged (.object members closed) (.object listed closed)

/-- The items of the second list are those of the first with members moved inside them. -/
inductive ItemsRearranged : List Json → List Json → Prop where
  | nil : ItemsRearranged [] []
  | cons {item item' : Json} {rest rest' : List Json} (hitem : Rearranged item item')
      (hrest : ItemsRearranged rest rest') : ItemsRearranged (item :: rest) (item' :: rest')

/-- The values of the second list are those of the first with members moved inside them. -/
inductive MembersRearranged : List (Json × Json) → List (Json × Json) → Prop where
  | nil : MembersRearranged [] []
  | cons (key : Json) {value value' : Json} {rest rest' : List (Json × Json)}
      (hvalue : Rearranged value value') (hrest : MembersRearranged rest rest') :
      MembersRearranged ((key, value) :: rest) ((key, value') :: rest')

end

theorem ItemsRearranged.refl (items : List Json) : ItemsRearranged items items := by
  induction items with
  | nil => exact .nil
  | cons item rest ih => exact .cons (.same item) ih

theorem MembersRearranged.refl (members : List (Json × Json)) :
    MembersRearranged members members := by
  induction members with
  | nil => exact .nil
  | cons member rest ih => exact .cons member.1 (.same member.2) ih

namespace Rearranged

variable {json : Json}

theorem text_inv {value : String} (hjson : Rearranged (.text value) json) :
    json = .text value := by
  cases hjson
  rfl

theorem integer_inv {value : Int} (hjson : Rearranged (.integer value) json) :
    json = .integer value := by
  cases hjson
  rfl

theorem array_inv {items : List Json} (hjson : Rearranged (.ofItems items) json) :
    ∃ items', ItemsRearranged items items' ∧ json = .ofItems items' := by
  cases hjson with
  | same => exact ⟨items, .refl items, rfl⟩
  | array _ hitems => exact ⟨_, hitems, rfl⟩

theorem object_inv {members : List (Json × Json)} {closed : Bool}
    (hjson : Rearranged (.object members closed) json) :
    ∃ members' listed, MembersRearranged members members' ∧ members'.Perm listed ∧
      json = .object listed closed := by
  cases hjson with
  | same => exact ⟨members, members, .refl members, .refl members, rfl⟩
  | object _ hmembers horder => exact ⟨_, _, hmembers, horder, rfl⟩

end Rearranged

/-! ## Soundness

Moving members does not bring or hide problems. -/

theorem areSound_eq_all (depth : Nat) (items : List Json) :
    areSound depth items = items.all (isSound depth) := by
  induction items with
  | nil => rfl
  | cons item rest ih => simp [areSound, ih]

theorem membersAreSound_eq_all (depth : Nat) (members : List (Json × Json)) :
    membersAreSound depth members =
      members.all fun member => member.1.isSound depth && member.2.isSound depth := by
  induction members with
  | nil => rfl
  | cons member rest ih => simp [membersAreSound, ih]

mutual

theorem Rearranged.isSound_eq {json json' : Json} (hjson : Rearranged json json')
    (depth : Nat) : json'.isSound depth = json.isSound depth :=
  match hjson with
  | .same _ => rfl
  | .array _ hitems => by simp [isSound, hitems.areSound_eq (depth - 1)]
  | .object _ hmembers horder => by
      have hmoved := horder.all_eq (f := fun member : Json × Json =>
        member.1.isSound (depth - 1) && member.2.isSound (depth - 1))
      rw [← membersAreSound_eq_all, ← membersAreSound_eq_all] at hmoved
      simp [isSound, ← hmoved, hmembers.membersAreSound_eq (depth - 1)]

theorem ItemsRearranged.areSound_eq {items items' : List Json}
    (hitems : ItemsRearranged items items') (depth : Nat) :
    areSound depth items' = areSound depth items :=
  match hitems with
  | .nil => rfl
  | .cons hitem hrest => by simp [areSound, hitem.isSound_eq depth, hrest.areSound_eq depth]

theorem MembersRearranged.membersAreSound_eq {members members' : List (Json × Json)}
    (hmembers : MembersRearranged members members') (depth : Nat) :
    membersAreSound depth members' = membersAreSound depth members :=
  match hmembers with
  | .nil => rfl
  | .cons _ hvalue hrest => by
      simp [membersAreSound, hvalue.isSound_eq depth, hrest.membersAreSound_eq depth]

end

/-! ## Records -/

variable {ρ : Type}

/-- A field that has been filled is known to be. -/
def Field.Settled (field : Field ρ) : Prop :=
  ∀ delivery json record record', field.fill delivery json record = .ok record' →
    field.isFilled record' = true

/-- Filling the first field leaves the second as it is, and what it gives together with
the second it also gives behind the second. -/
structure Field.Apart (first second : Field ρ) : Prop where
  keeps : ∀ {delivery json record record'}, first.fill delivery json record = .ok record' →
    second.isFilled record' = second.isFilled record
  exchange : ∀ {delivery json json' record between record'},
    first.fill delivery json record = .ok between →
      second.fill delivery json' between = .ok record' →
        ∃ between', second.fill delivery json' record = .ok between' ∧
          first.fill delivery json between' = .ok record'

theorem Field.of_settled {α : Type} {name : String} {decode : Delivery → Json → Decoded α}
    {get : ρ → Option α} {set : α → ρ → ρ}
    (hset : ∀ value record, get (set value record) = some value) :
    (Field.of name decode get set).Settled := by
  intro delivery json record record' hfill
  cases hvalue : decode delivery json with
  | error error => simp [Field.of, hvalue, Except.map] at hfill
  | ok value =>
      simp only [Field.of, hvalue, Except.map, Except.ok.injEq] at hfill ⊢
      rw [← hfill, hset]
      rfl

/-- Components that are held side by side are apart. -/
theorem Field.of_apart {α β : Type} {name name' : String}
    {decode : Delivery → Json → Decoded α} {decode' : Delivery → Json → Decoded β}
    {get : ρ → Option α} {get' : ρ → Option β} {set : α → ρ → ρ} {set' : β → ρ → ρ}
    (hkeeps : ∀ value record, get' (set value record) = get' record)
    (hexchange : ∀ value value' record,
      set' value' (set value record) = set value (set' value' record)) :
    (Field.of name decode get set).Apart (.of name' decode' get' set') where
  keeps {delivery json record record'} hfill := by
    cases hvalue : decode delivery json with
    | error error => simp [Field.of, hvalue, Except.map] at hfill
    | ok value =>
        simp only [Field.of, hvalue, Except.map, Except.ok.injEq] at hfill ⊢
        rw [← hfill, hkeeps]
  exchange {delivery json json' record between record'} hfirst hsecond := by
    cases hvalue : decode delivery json with
    | error error => simp [Field.of, hvalue, Except.map] at hfirst
    | ok value =>
        cases hvalue' : decode' delivery json' with
        | error error => simp [Field.of, hvalue', Except.map] at hsecond
        | ok value' =>
            simp only [Field.of, hvalue, hvalue', Except.map, Except.ok.injEq] at hfirst hsecond ⊢
            refine ⟨set' value' record, rfl, ?_⟩
            rw [← hsecond, ← hfirst, hexchange]

namespace Shape

/-- The fields of a record may be filled in any order. -/
structure Orderless (shape : Shape ρ) : Prop where
  settled : ∀ field ∈ shape.fields, field.Settled
  apart : ∀ first ∈ shape.fields, ∀ second ∈ shape.fields,
    first.name ≠ second.name → first.Apart second

variable {shape : Shape ρ} {delivery : Delivery} {name : String} {field : Field ρ}

/-- Fields that are apart from one another may be filled in any order. -/
theorem Orderless.of_pairwise (hsettled : ∀ field ∈ shape.fields, field.Settled)
    (hapart : shape.fields.Pairwise fun first second => first.Apart second ∧ second.Apart first) :
    shape.Orderless where
  settled := hsettled
  apart first hfirst second hsecond hnames := by
    rw [List.pairwise_iff_getElem] at hapart
    obtain ⟨i, hi, rfl⟩ := List.getElem_of_mem hfirst
    obtain ⟨j, hj, rfl⟩ := List.getElem_of_mem hsecond
    rcases Nat.lt_trichotomy i j with hlt | rfl | hgt
    · exact (hapart i j hi hj hlt).1
    · exact absurd rfl hnames
    · exact (hapart j i hj hi hgt).2

theorem mem_of_field? (hfield : shape.field? name = some field) :
    field ∈ shape.fields ∧ field.name = name := by
  refine ⟨List.mem_of_find?_eq_some hfield, ?_⟩
  simpa using List.find?_some hfield

/-- One member takes a record under construction to the next. -/
inductive Takes (shape : Shape ρ) (delivery : Delivery) : Json × Json → ρ → ρ → Prop where
  | known {name : String} {value : Json} {field : Field ρ} {record record' : ρ}
      (hfield : shape.field? name = some field) (hblank : field.isFilled record = false)
      (hfill : field.fill delivery value record = .ok record') :
      shape.Takes delivery (.text name, value) record record'
  | skipped {name : String} {value : Json} {record : ρ} (hfield : shape.field? name = none)
      (hopen : shape.strict = false) (hskip : value.isSkippable = true) :
      shape.Takes delivery (.text name, value) record record

theorem Takes.fillMembers_eq {member : Json × Json} {record record' : ρ}
    (htakes : shape.Takes delivery member record record') (rest : List (Json × Json))
    (closed : Bool) :
    shape.fillMembers delivery (member :: rest) closed record =
      shape.fillMembers delivery rest closed record' := by
  cases htakes with
  | known hfield hblank hfill => simp [fillMembers, hfield, hblank, hfill]
  | skipped hfield hopen hskip => simp [fillMembers, hfield, hopen, hskip]

/-- A record is read from a list of members by its first member taking it on. -/
theorem takes_of_fillMembers {member : Json × Json} {rest : List (Json × Json)}
    {closed : Bool} {record result : ρ}
    (hfill : shape.fillMembers delivery (member :: rest) closed record = .ok result) :
    ∃ record', shape.Takes delivery member record record' ∧
      shape.fillMembers delivery rest closed record' = .ok result := by
  obtain ⟨key, value⟩ := member
  cases key with
  | text name =>
      simp only [fillMembers] at hfill
      split at hfill
      next field hfield =>
        split at hfill
        next => cases hfill
        next hblank =>
          split at hfill
          next => cases hfill
          next record' hvalue =>
            exact ⟨record', .known hfield (by simpa using hblank) hvalue, hfill⟩
      next hfield =>
        split at hfill
        next => cases hfill
        next hopen =>
          split at hfill
          next hskip => exact ⟨record, .skipped hfield (by simpa using hopen) hskip, hfill⟩
          next => cases hfill
  | _ => simp [fillMembers] at hfill

/-- Two members next to each other take a record to the same place in either order. -/
theorem Takes.exchange (horderless : shape.Orderless) {first second : Json × Json}
    {record between record' : ρ} (hfirst : shape.Takes delivery first record between)
    (hsecond : shape.Takes delivery second between record') :
    ∃ between', shape.Takes delivery second record between' ∧
      shape.Takes delivery first between' record' := by
  cases hfirst with
  | skipped hfield hopen hskip => exact ⟨record', hsecond, .skipped hfield hopen hskip⟩
  | @known name _ field _ _ hfield hblank hfill =>
      cases hsecond with
      | skipped hfield' hopen hskip =>
          exact ⟨record, .skipped hfield' hopen hskip, .known hfield hblank hfill⟩
      | @known name' _ field' _ _ hfield' hblank' hfill' =>
          obtain ⟨hmem, hname⟩ := mem_of_field? hfield
          obtain ⟨hmem', hname'⟩ := mem_of_field? hfield'
          by_cases hsame : name = name'
          · -- The second member would have been refused as a duplicate.
            subst hsame
            cases hfield.symm.trans hfield'
            rw [horderless.settled field hmem _ _ _ _ hfill] at hblank'
            cases hblank'
          · have hnames : field.name ≠ field'.name := by rwa [hname, hname']
            have hapart := horderless.apart field hmem field' hmem' hnames
            have hapart' := horderless.apart field' hmem' field hmem hnames.symm
            obtain ⟨between', hfill₂, hfill₁⟩ := hapart.exchange hfill hfill'
            refine ⟨between', .known hfield' ?_ hfill₂, .known hfield ?_ hfill₁⟩
            · rwa [← hapart.keeps hfill]
            · rwa [hapart'.keeps hfill₂]

/-- What a record is read as does not depend on the order of the members. -/
theorem fillMembers_perm (horderless : shape.Orderless) {members listed : List (Json × Json)}
    (horder : members.Perm listed) {closed : Bool} {record result : ρ}
    (hfill : shape.fillMembers delivery members closed record = .ok result) :
    shape.fillMembers delivery listed closed record = .ok result := by
  induction horder generalizing record with
  | nil => exact hfill
  | cons member horder ih =>
      obtain ⟨record', htakes, hrest⟩ := takes_of_fillMembers hfill
      rw [htakes.fillMembers_eq]
      exact ih hrest
  | swap second first rest =>
      obtain ⟨between, hfirst, hmore⟩ := takes_of_fillMembers hfill
      obtain ⟨record', hsecond, hrest⟩ := takes_of_fillMembers hmore
      obtain ⟨between', hsecond', hfirst'⟩ := hfirst.exchange horderless hsecond
      rw [hsecond'.fillMembers_eq, hfirst'.fillMembers_eq]
      exact hrest
  | trans horder₁ horder₂ ih₁ ih₂ => exact ih₂ (ih₁ hfill)

theorem fillFrom_perm (horderless : shape.Orderless) {members listed : List (Json × Json)}
    (horder : members.Perm listed) {record result : ρ}
    (hfill : shape.fillMembers delivery.inside members true record = .ok result) :
    shape.fillFrom delivery record (.object listed true) = .ok result :=
  fillMembers_perm horderless horder hfill

end Shape

end Retention.Json
