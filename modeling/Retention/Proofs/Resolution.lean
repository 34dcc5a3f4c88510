import Retention.Proofs.Path
import Retention.Resolution

/-!
# What resolution comes to

Resolving an instance follows the same trail as its path does, one look-up ahead of it and
with a budget in place of a memory. So the end of the trail decides both: a rest within the
budget settles the instance, and everything else, loops included, is too long.
-/

namespace Retention

namespace HeapView

variable {heap : HeapView} {start : InstanceId}

/-- The key of an instance that its pointer does not lead away from. -/
def restKey (heap : HeapView) (id : InstanceId) : RootKey :=
  match heap.pointer id with
  | none => .unreachable
  | some _ => .root id

theorem restKey_of_none {id : InstanceId} (hpointer : heap.pointer id = none) :
    heap.restKey id = .unreachable := by
  rw [restKey, hpointer]

theorem restKey_of_self {id : InstanceId} (hpointer : heap.pointer id = some id) :
    heap.restKey id = .root id := by
  rw [restKey, hpointer]

/-- What resolving an instance comes to, given how the trail of the instance ends. -/
def settled (heap : HeapView) (limit : UInt64) (start : InstanceId) :
    Ending → Except Failure RootKey
  | .root hops =>
      if hops ≤ limit.toNat then .ok (.root (heap.trail start hops))
      else .error (.inconsistent (.chainTooLong start limit))
  | .deadEnd hops =>
      if hops ≤ limit.toNat then .ok .unreachable
      else .error (.inconsistent (.chainTooLong start limit))
  | .loop _ => .error (.inconsistent (.chainTooLong start limit))

end HeapView

namespace Resolution

open HeapView

variable {σ : Type} {host : Host σ} {heap : HeapView} {ready : Phase → σ → Prop}
  {phase : Phase} {start current : InstanceId} {limit : UInt64} {state : σ} {budget : Nat}

/-! ## Look-ups -/

theorem settle_of_rest (hserves : host.Serves heap ready) (hready : ready phase state)
    (hstays : ¬ heap.Leaves current) :
    ∃ later, settle host start limit budget current state =
      (.ok (heap.restKey current), later) ∧ ready phase later := by
  obtain ⟨later, hlookup, hlater⟩ := hserves.lookup current hready
  refine ⟨later, ?_, hlater⟩
  unfold settle restKey
  rcases pointer_of_not_leaves hstays with hnone | hself
  · simp only [hlookup, hnone]
  · simp only [hlookup, hself, if_true]

theorem settle_zero (hserves : host.Serves heap ready) (hready : ready phase state)
    (hleaves : heap.Leaves current) :
    ∃ later, settle host start limit 0 current state =
      (.error (.inconsistent (.chainTooLong start limit)), later) ∧ ready phase later := by
  obtain ⟨later, hlookup, hlater⟩ := hserves.lookup current hready
  obtain ⟨next, hpointer, hne⟩ := hleaves
  refine ⟨later, ?_, hlater⟩
  unfold settle
  simp only [hlookup, hpointer, hne, if_false]

/-- A hop within the budget leads to the next instance with one hop less to go. -/
theorem settle_succ (hserves : host.Serves heap ready) (start : InstanceId) (limit : UInt64)
    (budget : Nat) (hready : ready phase state) (hleaves : heap.Leaves current) :
    ∃ later, ready phase later ∧ settle host start limit (budget + 1) current state =
      settle host start limit budget (heap.advance current) later := by
  obtain ⟨later, hlookup, hlater⟩ := hserves.lookup current hready
  obtain ⟨next, hpointer, hne⟩ := hleaves
  refine ⟨later, hlater, ?_⟩
  rw [advance_of_pointer hpointer, settle]
  simp only [hlookup, hpointer, hne, if_false, hserves.not_cancelled _ _ hlater,
    Bool.false_eq_true]

/-! ## Runs -/

/-- A rest that the budget reaches is found. -/
theorem settle_trail_of_rests (hserves : host.Serves heap ready) {rest i : Nat}
    (hrests : heap.Rests start rest) (hle : i ≤ rest) (hbudget : rest ≤ i + budget)
    (hready : ready phase state) :
    ∃ later, settle host start limit budget (heap.trail start i) state =
      (.ok (heap.restKey (heap.trail start rest)), later) ∧ ready phase later := by
  -- The rest is never further away than the budget: both shrink with each hop.
  induction budget generalizing i state with
  | zero =>
      obtain rfl : i = rest := by omega
      exact settle_of_rest hserves hready hrests.stays
  | succ budget ih =>
      rcases Nat.lt_or_eq_of_le hle with hlt | rfl
      · obtain ⟨middle, hmiddle, hround⟩ := settle_succ hserves start limit budget hready
          (hrests.moves i hlt)
        rw [hround, ← trail_succ]
        exact ih (by omega) (by omega) hmiddle
      · exact settle_of_rest hserves hready hrests.stays

/-- A trail that leads on beyond the budget is too long. -/
theorem settle_trail_of_moves (hserves : host.Serves heap ready) {i : Nat}
    (hmoves : heap.Moves start (i + budget + 1)) (hready : ready phase state) :
    ∃ later, settle host start limit budget (heap.trail start i) state =
      (.error (.inconsistent (.chainTooLong start limit)), later) ∧ ready phase later := by
  induction budget generalizing i state with
  | zero => exact settle_zero hserves hready (hmoves i (by omega))
  | succ budget ih =>
      obtain ⟨middle, hmiddle, hround⟩ := settle_succ hserves start limit budget hready
        (hmoves i (by omega))
      rw [hround, ← trail_succ]
      refine ih ?_ hmiddle
      rwa [Nat.add_right_comm i 1 budget, Nat.add_assoc i budget 1]

theorem resolve_of_moves (hserves : host.Serves heap ready) (hready : ready phase state)
    (hmoves : heap.Moves start (limit.toNat + 1)) :
    ∃ later, resolve host limit start state =
      (.error (.inconsistent (.chainTooLong start limit)), later) ∧ ready phase later := by
  rw [← Nat.zero_add limit.toNat] at hmoves
  exact settle_trail_of_moves hserves hmoves hready

/-- A trail that rests is resolved to its rest if the budget reaches that far. -/
theorem resolve_of_rests (hserves : host.Serves heap ready) (hready : ready phase state)
    (limit : UInt64) {rest : Nat} (hrests : heap.Rests start rest) :
    ∃ later, resolve host limit start state =
      (if rest ≤ limit.toNat then .ok (heap.restKey (heap.trail start rest))
        else .error (.inconsistent (.chainTooLong start limit)), later) ∧ ready phase later := by
  split
  next hle =>
    exact settle_trail_of_rests hserves hrests (Nat.zero_le rest) (by omega) hready
  next hgt => exact resolve_of_moves hserves hready (hrests.moves.mono (by omega))

/-- How the trail of an instance ends decides what it resolves to. -/
theorem resolve_of_ends (hserves : host.Serves heap ready) (hready : ready phase state)
    (limit : UInt64) {ending : Ending} (hends : heap.Ends start ending) :
    ∃ later, resolve host limit start state = (heap.settled limit start ending, later) ∧
      ready phase later := by
  cases ending with
  | root hops =>
      rw [settled, ← restKey_of_self hends.2]
      exact resolve_of_rests hserves hready limit hends.rests_of_root
  | deadEnd hops =>
      rw [settled, ← restKey_of_none hends.2]
      exact resolve_of_rests hserves hready limit hends.rests_of_deadEnd
  | loop hops => exact resolve_of_moves hserves hready fun i _ => hends.leaves_of_loop i

end Resolution

/-- What an instance of a heap resolves to within `limit` hops, when nothing interferes. -/
def HeapView.resolved (heap : HeapView) (limit : UInt64) (id : InstanceId) :
    Except Failure RootKey :=
  (Resolution.resolve (Host.quiet heap) limit id ()).1

/-- An instance resolves to the same on every host that serves the heap. -/
theorem Resolution.resolve_serves {σ : Type} {host : Host σ} {heap : HeapView}
    {ready : Phase → σ → Prop} {phase : Phase} {state : σ} (hserves : host.Serves heap ready)
    (hready : ready phase state) (limit : UInt64) (id : InstanceId) :
    ∃ later, resolve host limit id state = (heap.resolved limit id, later) ∧
      ready phase later := by
  obtain ⟨ending, hends⟩ := HeapView.exists_ends heap id
  obtain ⟨_, hquiet, _⟩ := @resolve_of_ends Unit (Host.quiet heap) heap (fun _ _ => True) phase
    id () (Host.quiet_serves heap) trivial limit ending hends
  rw [HeapView.resolved, hquiet]
  exact resolve_of_ends hserves hready limit hends

/-! ## Resolution and paths -/

namespace HeapView

variable {heap : HeapView} {start : InstanceId}

/-- What resolving an instance within `limit` hops comes to agrees with what its path comes
to: a root is named for a root and for a chain of at most so many hops, no root for no path
and for a dead end at most so many hops away, and all else is too long. -/
structure Agree (heap : HeapView) (start : InstanceId) (limit : UInt64)
    (resolved : Except Failure RootKey) (built : Except Failure PathOutcome) : Prop where
  root_iff : ∀ root, resolved = .ok (.root root) ↔
    (built = .ok .isRoot ∧ root = start) ∨
      ∃ chain, built = .ok (.chain chain) ∧ chain.root = root ∧
        chain.length + chain.skipped.length ≤ limit.toNat
  unreachable_iff : resolved = .ok .unreachable ↔
    built = .ok .noRoot ∨
      ∃ stranded, built = .error (.inconsistent (.danglingPointer start stranded)) ∧
        ∃ hops ≤ limit.toNat, heap.trail start hops = stranded
  tooLong_iff : resolved = .error (.inconsistent (.chainTooLong start limit)) ↔
    (∃ revisited, built = .error (.inconsistent (.pointerCycle start revisited))) ∨
      (∃ chain, built = .ok (.chain chain) ∧
        limit.toNat < chain.length + chain.skipped.length) ∨
      ∃ stranded, built = .error (.inconsistent (.danglingPointer start stranded)) ∧
        ∀ hops ≤ limit.toNat, heap.trail start hops ≠ stranded
  complete : (∃ root, resolved = .ok (.root root)) ∨ resolved = .ok .unreachable ∨
    resolved = .error (.inconsistent (.chainTooLong start limit))

theorem outcome_root_succ (heap : HeapView) (start : InstanceId) (hops : Nat) :
    ∃ chain, heap.outcome start (.root (hops + 1)) = .ok (.chain chain) ∧
      chain.root = heap.trail start (hops + 1) ∧
      chain.length + chain.skipped.length = hops + 1 :=
  ⟨_, rfl, rfl, (records_ofHops heap start (hops + 1)).length_eq⟩

/-- A dead end is not reached before the trail ends there. -/
theorem reaches_deadEnd_iff {hops : Nat} (limit : Nat)
    (hends : heap.Ends start (.deadEnd hops)) :
    (∃ n ≤ limit, heap.trail start n = heap.trail start hops) ↔ hops ≤ limit := by
  constructor
  · rintro ⟨n, hn, heq⟩
    by_contra hgt
    exact hends.rests_of_deadEnd.distinct n hops (by omega) (by omega) heq
  · intro hle
    exact ⟨hops, hle, rfl⟩

theorem agree_chain {hops : Nat} {chain : RootChain} (limit : UInt64)
    (hroot : chain.root = heap.trail start hops)
    (hlength : chain.length + chain.skipped.length = hops) :
    heap.Agree start limit (heap.settled limit start (.root hops)) (.ok (.chain chain)) := by
  by_cases hle : hops ≤ limit.toNat
  · constructor <;> simp [settled, hle, hroot, hlength]
  · constructor <;> simp [settled, hle, hroot, hlength, Nat.lt_of_not_le hle]

theorem agree_root (heap : HeapView) (start : InstanceId) (limit : UInt64) (hops : Nat) :
    heap.Agree start limit (heap.settled limit start (.root hops))
      (heap.outcome start (.root hops)) := by
  cases hops with
  | zero => constructor <;> simp [settled, outcome, eq_comm]
  | succ hops =>
      obtain ⟨chain, houtcome, hroot, hlength⟩ := outcome_root_succ heap start hops
      rw [houtcome]
      exact agree_chain limit hroot hlength

/-- A failure over a dead end names one instance. -/
theorem exists_stranded_iff {stranded : InstanceId} {property : InstanceId → Prop} :
    (∃ named, (.error (.inconsistent (.danglingPointer start stranded)) :
        Except Failure PathOutcome) = .error (.inconsistent (.danglingPointer start named)) ∧
      property named) ↔ property stranded := by
  constructor
  · rintro ⟨named, heq, hnamed⟩
    cases heq
    exact hnamed
  · intro hstranded
    exact ⟨stranded, rfl, hstranded⟩

theorem agree_stranded {hops : Nat} (limit : UInt64)
    (hends : heap.Ends start (.deadEnd hops)) :
    heap.Agree start limit (heap.settled limit start (.deadEnd hops))
      (.error (.inconsistent (.danglingPointer start (heap.trail start hops)))) := by
  have hreaches := reaches_deadEnd_iff limit.toNat hends
  have hmisses : (∀ n ≤ limit.toNat, heap.trail start n ≠ heap.trail start hops) ↔
      ¬ hops ≤ limit.toNat := by
    rw [← hreaches, not_exists]
    exact forall_congr' fun n => not_and.symm
  by_cases hle : hops ≤ limit.toNat
  · constructor <;> simp only [settled, exists_stranded_iff, hreaches, hmisses] <;> simp [hle]
  · constructor <;> simp only [settled, exists_stranded_iff, hreaches, hmisses] <;> simp [hle]

theorem agree_deadEnd {hops : Nat} (limit : UInt64)
    (hends : heap.Ends start (.deadEnd hops)) :
    heap.Agree start limit (heap.settled limit start (.deadEnd hops))
      (heap.outcome start (.deadEnd hops)) := by
  cases hops with
  | zero => constructor <;> simp [settled, outcome]
  | succ hops => exact agree_stranded limit hends

theorem agree_loop (heap : HeapView) (start : InstanceId) (limit : UInt64) (hops : Nat) :
    heap.Agree start limit (heap.settled limit start (.loop hops))
      (heap.outcome start (.loop hops)) := by
  constructor <;> simp [settled, outcome]

theorem agree_of_ends {ending : Ending} (limit : UInt64) (hends : heap.Ends start ending) :
    heap.Agree start limit (heap.settled limit start ending) (heap.outcome start ending) := by
  cases ending with
  | root hops => exact agree_root heap start limit hops
  | deadEnd hops => exact agree_deadEnd limit hends
  | loop hops => exact agree_loop heap start limit hops

theorem outcome_loop_iff {ending : Ending} :
    (∃ revisited, heap.outcome start ending =
        .error (.inconsistent (.pointerCycle start revisited))) ↔
      ∃ hops, ending = .loop hops := by
  match ending with
  | .root 0 => simp [outcome]
  | .root (hops + 1) => simp [outcome]
  | .deadEnd 0 => simp [outcome]
  | .deadEnd (hops + 1) => simp [outcome]
  | .loop hops => simp [outcome]

/-- A trail circles exactly if it ends in a loop. -/
theorem circles_iff {ending : Ending} (hends : heap.Ends start ending) :
    heap.Circles start ↔ ∃ hops, ending = .loop hops := by
  constructor
  · intro hcircles
    cases ending with
    | root hops => exact absurd (hcircles.leaves hops) hends.rests_of_root.stays
    | deadEnd hops => exact absurd (hcircles.leaves hops) hends.rests_of_deadEnd.stays
    | loop hops => exact ⟨hops, rfl⟩
  · rintro ⟨hops, rfl⟩
    obtain ⟨hmoves, _, i, hi, heq⟩ := hends
    exact ⟨i, hops, hi, hmoves i hi, heq⟩

end HeapView

namespace Resolution

open HeapView

variable {σ : Type} {host : Host σ} {heap : HeapView} {ready : Phase → σ → Prop}
  {phase : Phase} {state walking : σ}

/-- Resolution and path agree on every instance and within every budget. In particular no
root is ever named for an instance whose trail circles, which is what the path reports. -/
theorem resolve_agrees_with_path (hserves : host.Serves heap ready) (hready : ready phase state)
    (hwalking : ready .outside walking) (limit : UInt64) (start : InstanceId) :
    heap.Agree start limit (resolve host limit start state).1
        (Path.build host .skip start walking).1 ∧
      (heap.Circles start ↔ ∃ revisited, (Path.build host .skip start walking).1 =
        .error (.inconsistent (.pointerCycle start revisited))) ∧
      (heap.Circles start →
        ∀ budget root, (resolve host budget start state).1 ≠ .ok (.root root)) := by
  obtain ⟨ending, hends⟩ := exists_ends heap start
  have hresolve : ∀ budget,
      (resolve host budget start state).1 = heap.settled budget start ending := by
    intro budget
    obtain ⟨later, hrun, _⟩ := resolve_of_ends hserves hready budget hends
    rw [hrun]
  rw [hresolve, Path.build_skip_of_ends hserves hwalking hends]
  refine ⟨agree_of_ends limit hends, (circles_iff hends).trans outcome_loop_iff.symm, ?_⟩
  intro hcircles budget root
  obtain ⟨hops, rfl⟩ := (circles_iff hends).mp hcircles
  rw [hresolve, settled]
  intro heq
  cases heq

/-- In the sample heap two hops are one too few for 1, and no budget finds a root for 5. -/
theorem resolve_agrees_with_path_sample :
    let sink : SinkPlan := ⟨true, none, none⟩
    let host := Monitor.host sample .plain sink
    host.Serves sample (Monitor.Ready sink) ∧ Monitor.Ready sink .outside .fresh ∧
      (resolve host 2 ⟨1⟩ .fresh).1 = .error (.inconsistent (.chainTooLong ⟨1⟩ 2)) ∧
      (∃ revisited, (Path.build host .skip ⟨5⟩ .fresh).1 =
        .error (.inconsistent (.pointerCycle ⟨5⟩ revisited))) ∧
      ∀ budget root, (resolve host budget ⟨5⟩ .fresh).1 ≠ .ok (.root root) := by
  intro sink host
  have hserves : host.Serves sample (Monitor.Ready sink) := Monitor.host_serves sample rfl rfl rfl
  have hready : Monitor.Ready sink .outside .fresh := Monitor.fresh_ready sink
  have hcircles : sample.Circles ⟨5⟩ :=
    ⟨1, 3, by decide, ⟨⟨7⟩, by decide, by decide⟩, by decide⟩
  obtain ⟨_, hloop, hnever⟩ := resolve_agrees_with_path hserves hready hready 2 ⟨5⟩
  obtain ⟨hagree, _, _⟩ := resolve_agrees_with_path hserves hready hready 2 ⟨1⟩
  refine ⟨hserves, hready, ?_, hloop.mp hcircles, hnever hcircles⟩
  obtain ⟨chain, houtcome, _, hlength⟩ := outcome_root_succ sample ⟨1⟩ 2
  have hbuild := (Path.build_skip_of_ends hserves hready sample_ends_root).trans houtcome
  exact hagree.tooLong_iff.mpr (Or.inr (Or.inl ⟨chain, hbuild, hlength ▸ by decide⟩))

end Resolution

end Retention
