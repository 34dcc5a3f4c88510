import Mathlib.Data.Fintype.Pigeonhole
import Mathlib.Data.Nat.Find
import Mathlib.Logic.Function.Iterate
import Retention.Heap

/-!
# Trails of nearest-root pointers

Following the pointers from an instance leaves a trail. There are only finitely many
identities, so every trail comes to a root, strands at an instance without a pointer,
or comes back to an instance that it has left; and it does exactly one of these.
-/

namespace Retention

theorem InstanceId.toFin_injective :
    Function.Injective fun id : InstanceId => (⟨id.raw.toNat, id.toNat_lt⟩ : Fin UInt64.size) := by
  intro a b heq
  exact InstanceId.raw_injective (UInt64.toNat_inj.mp (Fin.mk.inj heq))

instance : Finite InstanceId :=
  Finite.of_injective _ InstanceId.toFin_injective

namespace HeapView

variable (heap : HeapView)

/-- Where the pointer of an instance leads. An instance without a pointer is not left. -/
def advance (id : InstanceId) : InstanceId :=
  (heap.pointer id).getD id

/-- The instance that so many hops along the pointers lead to. -/
def trail (start : InstanceId) (hops : Nat) : InstanceId :=
  heap.advance^[hops] start

/-- The pointer of an instance leads to another one. -/
def Leaves (id : InstanceId) : Prop :=
  ∃ next, heap.pointer id = some next ∧ next ≠ id

/-- The pointers lead on from each of the first `hops` instances of a trail. -/
def Moves (start : InstanceId) (hops : Nat) : Prop :=
  ∀ i < hops, heap.Leaves (heap.trail start i)

/-- A trail rests after so many hops: the pointers lead on until then and no further. -/
structure Rests (start : InstanceId) (hops : Nat) : Prop where
  moves : heap.Moves start hops
  stays : ¬ heap.Leaves (heap.trail start hops)

/-- The first `count` instances of a trail are pairwise different. -/
def Distinct (start : InstanceId) (count : Nat) : Prop :=
  ∀ i j, i < j → j < count → heap.trail start i ≠ heap.trail start j

/-- How a trail ends. -/
inductive Ending where
  /-- At a root, which is reached after so many hops. -/
  | root (hops : Nat)
  /-- At an instance without a pointer, which is reached after so many hops. -/
  | deadEnd (hops : Nat)
  /-- At an instance that is met for the second time after so many hops. -/
  | loop (hops : Nat)

/-- What it takes for the trail from `start` to end in a given way. -/
def Ends (start : InstanceId) : Ending → Prop
  | .root hops =>
      heap.Moves start hops ∧
        heap.pointer (heap.trail start hops) = some (heap.trail start hops)
  | .deadEnd hops => heap.Moves start hops ∧ heap.pointer (heap.trail start hops) = none
  | .loop hops =>
      heap.Moves start hops ∧ heap.Distinct start hops ∧
        ∃ i < hops, heap.trail start i = heap.trail start hops

variable {heap} {start : InstanceId}

/-! ## Hops -/

@[simp] theorem trail_zero : heap.trail start 0 = start :=
  rfl

theorem trail_succ (hops : Nat) :
    heap.trail start (hops + 1) = heap.advance (heap.trail start hops) :=
  Function.iterate_succ_apply' heap.advance hops start

theorem trail_add (hops further : Nat) :
    heap.trail start (further + hops) = heap.trail (heap.trail start hops) further :=
  Function.iterate_add_apply heap.advance further hops start

/-- Two places of a trail that hold one instance are followed by the same instances. -/
theorem trail_add_congr {i j : Nat} (heq : heap.trail start i = heap.trail start j)
    (further : Nat) : heap.trail start (further + i) = heap.trail start (further + j) := by
  rw [trail_add, trail_add, heq]

theorem advance_of_pointer {id next : InstanceId} (hpointer : heap.pointer id = some next) :
    heap.advance id = next := by
  rw [advance, hpointer, Option.getD_some]

/-- A trail stays at a root. -/
theorem trail_succ_of_self {hops : Nat}
    (hself : heap.pointer (heap.trail start hops) = some (heap.trail start hops)) :
    heap.trail start (hops + 1) = heap.trail start hops := by
  rw [trail_succ, advance_of_pointer hself]

theorem moves_zero : heap.Moves start 0 :=
  fun i hi => absurd hi (Nat.not_lt_zero i)

theorem pointer_of_not_leaves {id : InstanceId} (hstays : ¬ heap.Leaves id) :
    heap.pointer id = none ∨ heap.pointer id = some id := by
  cases hpointer : heap.pointer id with
  | none => exact Or.inl rfl
  | some next =>
      by_cases heq : next = id
      · exact Or.inr (congrArg some heq)
      · exact absurd ⟨next, hpointer, heq⟩ hstays

theorem not_leaves_of_none {id : InstanceId} (hpointer : heap.pointer id = none) :
    ¬ heap.Leaves id := by
  rintro ⟨next, hnext, _⟩
  rw [hpointer] at hnext
  cases hnext

theorem not_leaves_of_self {id : InstanceId} (hpointer : heap.pointer id = some id) :
    ¬ heap.Leaves id := by
  rintro ⟨next, hnext, hne⟩
  rw [hpointer] at hnext
  exact hne (Option.some.inj hnext).symm

/-- Where a trail leads on, the pointer names the next instance of the trail. -/
theorem Leaves.pointer_trail {hops : Nat} (hleaves : heap.Leaves (heap.trail start hops)) :
    heap.pointer (heap.trail start hops) = some (heap.trail start (hops + 1)) := by
  obtain ⟨next, hpointer, _⟩ := hleaves
  rw [trail_succ, advance_of_pointer hpointer, hpointer]

theorem Leaves.trail_ne {hops : Nat} (hleaves : heap.Leaves (heap.trail start hops)) :
    heap.trail start (hops + 1) ≠ heap.trail start hops := by
  obtain ⟨next, hpointer, hne⟩ := hleaves
  rw [trail_succ, advance_of_pointer hpointer]
  exact hne

theorem Moves.mono {few many : Nat} (hmoves : heap.Moves start many) (hle : few ≤ many) :
    heap.Moves start few :=
  fun i hi => hmoves i (Nat.lt_of_lt_of_le hi hle)

theorem Distinct.mono {few many : Nat} (hdistinct : heap.Distinct start many)
    (hle : few ≤ many) : heap.Distinct start few :=
  fun i j hij hj => hdistinct i j hij (Nat.lt_of_lt_of_le hj hle)

/-! ## Trails that come to rest -/

theorem advance_of_not_leaves {id : InstanceId} (hstays : ¬ heap.Leaves id) :
    heap.advance id = id := by
  rcases pointer_of_not_leaves hstays with hnone | hself
  · rw [advance, hnone, Option.getD_none]
  · exact advance_of_pointer hself

/-- A trail does not go beyond an instance that is not left. -/
theorem trail_of_rest {rest hops : Nat} (hstays : ¬ heap.Leaves (heap.trail start rest))
    (hle : rest ≤ hops) : heap.trail start hops = heap.trail start rest := by
  induction hops, hle using Nat.le_induction with
  | base => rfl
  | succ hops _ ih => rw [trail_succ, ih, advance_of_not_leaves hstays]

/-- Up to its rest a trail repeats nothing: a repetition would bring the rest forward. -/
theorem Rests.distinct {hops : Nat} (hrests : heap.Rests start hops) :
    heap.Distinct start (hops + 1) := by
  intro i j hij hj heq
  -- As far beyond `i` as the rest is beyond `j`, the trail would rest as well.
  have hearlier : heap.trail start (hops - j + i) = heap.trail start hops := by
    rw [trail_add_congr heq, Nat.sub_add_cancel (Nat.le_of_lt_succ hj)]
  have hleaves := hrests.moves (hops - j + i) (by omega)
  rw [hearlier] at hleaves
  exact hrests.stays hleaves

theorem Rests.unique {first second : Nat} (hfirst : heap.Rests start first)
    (hsecond : heap.Rests start second) : first = second := by
  rcases Nat.lt_trichotomy first second with hlt | heq | hlt
  · exact absurd (hsecond.moves first hlt) hfirst.stays
  · exact heq
  · exact absurd (hfirst.moves second hlt) hsecond.stays

theorem Ends.rests_of_root {hops : Nat} (hends : heap.Ends start (.root hops)) :
    heap.Rests start hops :=
  ⟨hends.1, not_leaves_of_self hends.2⟩

theorem Ends.rests_of_deadEnd {hops : Nat} (hends : heap.Ends start (.deadEnd hops)) :
    heap.Rests start hops :=
  ⟨hends.1, not_leaves_of_none hends.2⟩

/-- On the way to a root every pointer names the next instance of the trail, and so does that of the
root. -/
theorem Ends.pointer_of_root {hops i : Nat} (hends : heap.Ends start (.root hops)) (hi : i ≤ hops) :
    heap.pointer (heap.trail start i) = some (heap.trail start (i + 1)) := by
  rcases Nat.lt_or_eq_of_le hi with hlt | rfl
  · exact (hends.1 i hlt).pointer_trail
  · rw [trail_succ_of_self hends.2]
    exact hends.2

/-! ## Trails that loop -/

/-- A trail that comes back to an instance it has left never rests. -/
theorem leaves_of_repeat {i j : Nat} (hij : i < j) (hmoves : heap.Moves start j)
    (heq : heap.trail start i = heap.trail start j) (n : Nat) :
    heap.Leaves (heap.trail start n) := by
  -- Beyond the repetition every instance has stood on the trail before.
  induction n using Nat.strong_induction_on with
  | _ n ih =>
      rcases Nat.lt_or_ge n j with hlt | hge
      · exact hmoves n hlt
      · have hback : heap.trail start (n - j + i) = heap.trail start n := by
          rw [trail_add_congr heq, Nat.sub_add_cancel hge]
        have hleaves := ih (n - j + i) (by omega)
        rwa [hback] at hleaves

/-- A trail comes back to an instance that it has left. -/
def Circles (heap : HeapView) (start : InstanceId) : Prop :=
  ∃ i j, i < j ∧ heap.Leaves (heap.trail start i) ∧ heap.trail start i = heap.trail start j

theorem Circles.leaves (hcircles : heap.Circles start) (n : Nat) :
    heap.Leaves (heap.trail start n) := by
  obtain ⟨i, j, hij, hleaves, heq⟩ := hcircles
  refine leaves_of_repeat hij (fun k hk => ?_) heq n
  by_contra hstays
  rw [heq, trail_of_rest hstays (Nat.le_of_lt hk)] at hleaves
  exact hstays hleaves

theorem Ends.leaves_of_loop {hops : Nat} (hloop : heap.Ends start (.loop hops)) (n : Nat) :
    heap.Leaves (heap.trail start n) := by
  obtain ⟨hmoves, _, i, hi, heq⟩ := hloop
  exact leaves_of_repeat hi hmoves heq n

/-- Every trail holds some instance twice. -/
theorem exists_repeat (heap : HeapView) (start : InstanceId) :
    ∃ j, ∃ i < j, heap.trail start i = heap.trail start j := by
  obtain ⟨m, n, hne, heq⟩ := Finite.exists_ne_map_eq_of_infinite (heap.trail start)
  rcases Nat.lt_or_gt_of_ne hne with hlt | hlt
  · exact ⟨n, m, hlt, heq⟩
  · exact ⟨m, n, hlt, heq.symm⟩

/-! ## Endings -/

/-- Every trail ends in one of the three ways. -/
theorem exists_ends (heap : HeapView) (start : InstanceId) :
    ∃ ending, heap.Ends start ending := by
  classical
  by_cases hrest : ∃ n, ¬ heap.Leaves (heap.trail start n)
  · have hmoves : heap.Moves start (Nat.find hrest) :=
      fun i hi => not_not.mp (Nat.find_min hrest hi)
    rcases pointer_of_not_leaves (Nat.find_spec hrest) with hnone | hself
    · exact ⟨.deadEnd (Nat.find hrest), hmoves, hnone⟩
    · exact ⟨.root (Nat.find hrest), hmoves, hself⟩
  · have hrepeat := exists_repeat heap start
    refine ⟨.loop (Nat.find hrepeat), ?_, ?_, Nat.find_spec hrepeat⟩
    · intro i _
      by_contra hstays
      exact hrest ⟨i, hstays⟩
    · intro i j hij hj heq
      exact Nat.find_min hrepeat hj ⟨i, hij, heq⟩

theorem Ends.unique {ending other : Ending} (hending : heap.Ends start ending)
    (hother : heap.Ends start other) : ending = other := by
  cases ending with
  | root first =>
      cases other with
      | root second => rw [hending.rests_of_root.unique hother.rests_of_root]
      | deadEnd second =>
          obtain rfl := hending.rests_of_root.unique hother.rests_of_deadEnd
          cases hending.2.symm.trans hother.2
      | loop second => exact absurd (hother.leaves_of_loop first) hending.rests_of_root.stays
  | deadEnd first =>
      cases other with
      | root second =>
          obtain rfl := hending.rests_of_deadEnd.unique hother.rests_of_root
          cases hending.2.symm.trans hother.2
      | deadEnd second => rw [hending.rests_of_deadEnd.unique hother.rests_of_deadEnd]
      | loop second => exact absurd (hother.leaves_of_loop first) hending.rests_of_deadEnd.stays
  | loop first =>
      cases other with
      | root second => exact absurd (hending.leaves_of_loop second) hother.rests_of_root.stays
      | deadEnd second =>
          exact absurd (hending.leaves_of_loop second) hother.rests_of_deadEnd.stays
      | loop second =>
          -- The longer trail would hold the repetition of the shorter one.
          obtain ⟨_, hdistinct, i, hi, heq⟩ := hending
          obtain ⟨_, hdistinct', i', hi', heq'⟩ := hother
          rcases Nat.lt_trichotomy first second with hlt | hsame | hlt
          · exact absurd heq (hdistinct' i first hi hlt)
          · rw [hsame]
          · exact absurd heq' (hdistinct i' second hi' hlt)

/-- Every trail ends in exactly one way. -/
theorem existsUnique_ends (heap : HeapView) (start : InstanceId) :
    ∃! ending, heap.Ends start ending := by
  obtain ⟨ending, hending⟩ := exists_ends heap start
  exact ⟨ending, hending, fun _ hother => hother.unique hending⟩

/-! ## A sample -/

/-- A heap with a trail of every kind: from 1 over 2 and 3 to the root 4, from 5 into the
loop of 6 and 7, and from 8 to 9, which has no pointer. It shows no reference from 2 to 3,
and two from 1 to 2. -/
def sample : HeapView where
  pointer id :=
    match id.raw.toNat with
    | 1 => some ⟨2⟩
    | 2 => some ⟨3⟩
    | 3 => some ⟨4⟩
    | 4 => some ⟨4⟩
    | 5 => some ⟨6⟩
    | 6 => some ⟨7⟩
    | 7 => some ⟨6⟩
    | 8 => some ⟨9⟩
    | _ => none
  references id :=
    match id.raw.toNat with
    | 1 => [⟨.field "next", ⟨2⟩⟩, ⟨.field "copy", ⟨2⟩⟩]
    | 3 => [⟨.slot 0, ⟨4⟩⟩]
    | 5 => [⟨.field "next", ⟨6⟩⟩]
    | 6 => [⟨.field "next", ⟨7⟩⟩]
    | 7 => [⟨.field "next", ⟨6⟩⟩]
    | 8 => [⟨.field "next", ⟨9⟩⟩]
    | _ => []

theorem sample_ends_root : sample.Ends ⟨1⟩ (.root 3) := by
  refine ⟨?_, by decide⟩
  intro i hi
  obtain rfl | rfl | rfl : i = 0 ∨ i = 1 ∨ i = 2 := by omega
  · exact ⟨⟨2⟩, by decide, by decide⟩
  · exact ⟨⟨3⟩, by decide, by decide⟩
  · exact ⟨⟨4⟩, by decide, by decide⟩

end HeapView

end Retention
