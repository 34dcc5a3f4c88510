import Retention.Proofs.Walk

/-!
# What a path comes to

The path of an instance is decided by how its trail ends. A trail that ends at a root gives
the chain of its hops, each under the label of the first matching reference, or set aside
if there is none. Any other end is an outcome or a failure that names the place.
-/

namespace Retention

namespace HeapView

variable {heap : HeapView} {start source target : InstanceId}

/-- `source` holds a reference to `target`. -/
def Holds (heap : HeapView) (source target : InstanceId) : Prop :=
  ∃ reference ∈ heap.references source, reference.target = target

instance (heap : HeapView) (source target : InstanceId) : Decidable (heap.Holds source target) :=
  inferInstanceAs (Decidable (∃ reference ∈ heap.references source, reference.target = target))

/-- `edge` labels the first reference that `source` holds to `target`. -/
def FirstEdge (heap : HeapView) (source target : InstanceId) (edge : Edge) : Prop :=
  ∃ before after, heap.references source = before ++ ⟨edge, target⟩ :: after ∧
    ∀ reference ∈ before, reference.target ≠ target

theorem firstEdge_of_edgeBetween {edge : Edge}
    (hedge : heap.edgeBetween source target = some edge) :
    heap.FirstEdge source target edge := by
  unfold edgeBetween Reference.firstTo at hedge
  obtain ⟨⟨label, aim⟩, hfind, rfl⟩ := Option.map_eq_some_iff.mp hedge
  obtain ⟨htarget, before, after, hsplit, hbefore⟩ := List.find?_eq_some_iff_append.mp hfind
  obtain rfl : aim = target := of_decide_eq_true htarget
  refine ⟨before, after, hsplit, ?_⟩
  intro reference hmem
  simpa using hbefore reference hmem

theorem edgeBetween_eq_none_iff :
    heap.edgeBetween source target = none ↔ ¬ heap.Holds source target := by
  simp [edgeBetween, Reference.firstTo, Holds]

/-- The hops of a trail that some reference bears out, by their two ends. -/
def heldHops (heap : HeapView) (start : InstanceId) (hops : Nat) :
    List (InstanceId × InstanceId) :=
  ((List.range hops).filter fun i => heap.Holds (heap.trail start i) (heap.trail start (i + 1))).map
    fun i => (heap.trail start i, heap.trail start (i + 1))

/-- The hops of a trail that no reference bears out, by their two ends. -/
def bareHops (heap : HeapView) (start : InstanceId) (hops : Nat) :
    List (InstanceId × InstanceId) :=
  ((List.range hops).filter fun i =>
    ¬ heap.Holds (heap.trail start i) (heap.trail start (i + 1))).map
    fun i => (heap.trail start i, heap.trail start (i + 1))

/-- A chain records the first hops of a trail: its steps are the hops that references bear
out, in the order of the trail and each under the label of the first such reference, and
its skipped hops are the others in the order of the trail. -/
structure Records (heap : HeapView) (start : InstanceId) (hops : Nat) (chain : RootChain) :
    Prop where
  start_eq : chain.start = start
  root_eq : chain.root = heap.trail start hops
  steps_eq : chain.steps.map (fun step => (step.referrer, step.referent)) =
    heap.heldHops start hops
  steps_edge : ∀ step ∈ chain.steps, heap.FirstEdge step.referrer step.referent step.edge
  skipped_eq : chain.skipped.map (fun hop => (hop.source, hop.target)) =
    heap.bareHops start hops

theorem hopAt_of_holds {i : Nat}
    (hholds : heap.Holds (heap.trail start i) (heap.trail start (i + 1))) :
    ∃ edge, heap.hopAt start i =
        .found ⟨heap.trail start i, heap.trail start (i + 1), edge⟩ ∧
      heap.FirstEdge (heap.trail start i) (heap.trail start (i + 1)) edge := by
  unfold hopAt
  split
  next edge hedge => exact ⟨edge, rfl, firstEdge_of_edgeBetween hedge⟩
  next hnone => exact absurd hholds (edgeBetween_eq_none_iff.mp hnone)

theorem hopAt_of_not_holds {i : Nat}
    (hbare : ¬ heap.Holds (heap.trail start i) (heap.trail start (i + 1))) :
    heap.hopAt start i = .skipped ⟨heap.trail start i, heap.trail start (i + 1)⟩ := by
  unfold hopAt
  rw [edgeBetween_eq_none_iff.mpr hbare]

theorem steps_hopsTo (hops : Nat) :
    ((heap.hopsTo start hops).filterMap Hop.step?).map
        (fun step => (step.referrer, step.referent)) = heap.heldHops start hops := by
  unfold hopsTo heldHops
  induction List.range hops with
  | nil => rfl
  | cons i rest ih =>
      by_cases hholds : heap.Holds (heap.trail start i) (heap.trail start (i + 1))
      · obtain ⟨edge, hhop, _⟩ := hopAt_of_holds hholds
        simp only [List.map_cons, List.filterMap_cons, hhop, Hop.step?, ih, List.filter_cons,
          hholds, decide_true, if_true]
      · simp only [List.map_cons, List.filterMap_cons, hopAt_of_not_holds hholds, Hop.step?, ih,
          List.filter_cons, hholds, decide_false, Bool.false_eq_true, if_false]

theorem skipped_hopsTo (hops : Nat) :
    ((heap.hopsTo start hops).filterMap Hop.skipped?).map
        (fun hop => (hop.source, hop.target)) = heap.bareHops start hops := by
  unfold hopsTo bareHops
  induction List.range hops with
  | nil => rfl
  | cons i rest ih =>
      by_cases hholds : heap.Holds (heap.trail start i) (heap.trail start (i + 1))
      · obtain ⟨edge, hhop, _⟩ := hopAt_of_holds hholds
        simp only [List.map_cons, List.filterMap_cons, hhop, Hop.skipped?, ih, List.filter_cons,
          hholds, not_true_eq_false, decide_false, Bool.false_eq_true, if_false]
      · simp only [List.map_cons, List.filterMap_cons, hopAt_of_not_holds hholds, Hop.skipped?, ih,
          List.filter_cons, hholds, not_false_eq_true, decide_true, if_true]

theorem edge_of_mem_hopsTo {hops : Nat} {step : ChainStep}
    (hmem : step ∈ (heap.hopsTo start hops).filterMap Hop.step?) :
    heap.FirstEdge step.referrer step.referent step.edge := by
  obtain ⟨hop, hhop, hstep⟩ := List.mem_filterMap.mp hmem
  obtain ⟨i, _, rfl⟩ := List.mem_map.mp hhop
  by_cases hholds : heap.Holds (heap.trail start i) (heap.trail start (i + 1))
  · obtain ⟨edge, hfound, hfirst⟩ := hopAt_of_holds hholds
    rw [hfound] at hstep
    cases hstep
    exact hfirst
  · rw [hopAt_of_not_holds hholds] at hstep
    cases hstep

/-- The chain that a walk leaves behind records its hops. -/
theorem records_ofHops (heap : HeapView) (start : InstanceId) (hops : Nat) :
    heap.Records start hops
      (RootChain.ofHops start (heap.trail start hops) (heap.hopsTo start hops)) where
  start_eq := rfl
  root_eq := rfl
  steps_eq := steps_hopsTo hops
  steps_edge _ hmem := edge_of_mem_hopsTo hmem
  skipped_eq := skipped_hopsTo hops

/-- Every hop of a trail is a step of its record or skipped there. -/
theorem Records.length_eq {hops : Nat} {chain : RootChain}
    (hrecords : heap.Records start hops chain) :
    chain.steps.length + chain.skipped.length = hops := by
  have hheld := congrArg List.length hrecords.steps_eq
  have hbare := congrArg List.length hrecords.skipped_eq
  simp only [List.length_map, heldHops, bareHops] at hheld hbare
  have hsplit := (List.range hops).length_eq_length_filter_add
    fun i => decide (heap.Holds (heap.trail start i) (heap.trail start (i + 1)))
  rw [List.length_range] at hsplit
  simp only [← decide_not] at hsplit
  omega

/-! ## Outcomes -/

/-- The number of hops after which a trail ends. -/
def Ending.hops : Ending → Nat
  | .root hops => hops
  | .deadEnd hops => hops
  | .loop hops => hops

theorem Ends.moves {ending : Ending} (hends : heap.Ends start ending) :
    heap.Moves start ending.hops := by
  cases ending with
  | root hops => exact hends.1
  | deadEnd hops => exact hends.1
  | loop hops => exact hends.1

theorem Ends.distinct {ending : Ending} (hends : heap.Ends start ending) :
    heap.Distinct start ending.hops := by
  cases ending with
  | root hops => exact hends.rests_of_root.distinct.mono (Nat.le_succ _)
  | deadEnd hops => exact hends.rests_of_deadEnd.distinct.mono (Nat.le_succ _)
  | loop hops => exact hends.2.1

/-- What the path of an instance comes to, given how the trail of the instance ends. -/
def outcome (heap : HeapView) (start : InstanceId) : Ending → Except Failure PathOutcome
  | .root 0 => .ok .isRoot
  | .root (hops + 1) =>
      .ok (.chain (RootChain.ofHops start (heap.trail start (hops + 1))
        (heap.hopsTo start (hops + 1))))
  | .deadEnd 0 => .ok .noRoot
  | .deadEnd (hops + 1) =>
      .error (.inconsistent (.danglingPointer start (heap.trail start (hops + 1))))
  | .loop hops => .error (.inconsistent (.pointerCycle start (heap.trail start hops)))

end HeapView

namespace Path

open HeapView

variable {σ : Type} {host : Host σ} {heap : HeapView} {ready : Phase → σ → Prop}
  {policy : MissingEdgePolicy} {start : InstanceId} {state : σ}

/-- Where the pointer of the start leads on, a path is what its walk comes to. -/
theorem build_of_leaves (hserves : host.Serves heap ready) (hready : ready .outside state)
    (hleaves : heap.Leaves start) {result : Except Failure PathOutcome}
    (hwalk : ∀ opened, ready .inside opened → ∃ later,
      walkAfter host heap policy start 0 opened = (result, later) ∧ ready .inside later) :
    ∃ later, build host policy start state = (result, later) ∧ ready .outside later := by
  obtain ⟨looked, hlookup, hlooked⟩ := hserves.lookup start hready
  obtain ⟨next, hpointer, hne⟩ := hleaves
  have hnext : heap.trail start (0 + 1) = next := by
    rw [trail_succ, trail_zero, advance_of_pointer hpointer]
  obtain ⟨later, hrun, hlater⟩ := hserves.duringRun hwalk hlooked
  refine ⟨later, ?_, hlater⟩
  rw [build, hlookup, hpointer]
  simp only [hne, if_false]
  rw [← hrun, ← hnext]
  rfl

/-- The rounds before the end of a walk lead from the start to the instance before it. -/
theorem walkAfter_zero_of_moves (hserves : host.Serves heap ready) (hready : ready .inside state)
    {hops : Nat} (hpasses : ∀ i < hops + 1, heap.Passes policy start i)
    (hmoves : heap.Moves start (hops + 1)) (hdistinct : heap.Distinct start (hops + 1)) :
    ∃ later, ready .inside later ∧
      walkAfter host heap policy start 0 state = walkAfter host heap policy start hops later :=
  walkAfter_zero hserves hready (fun i hi => hpasses i (by omega)) hdistinct
    fun i hi => (hmoves i (by omega)).pointer_trail

/-- How the trail of an instance ends decides its path, provided that the policy lets the
hops of the trail pass. -/
theorem build_of_ends (hserves : host.Serves heap ready) (hready : ready .outside state)
    {ending : Ending} (hends : heap.Ends start ending)
    (hpasses : ∀ i < ending.hops, heap.Passes policy start i) :
    ∃ later, build host policy start state = (heap.outcome start ending, later) ∧
      ready .outside later := by
  match ending, hends with
  | .root 0, hends =>
      obtain ⟨looked, hlookup, hlooked⟩ := hserves.lookup start hready
      refine ⟨looked, ?_, hlooked⟩
      rw [build, hlookup, show heap.pointer start = some start from hends.2]
      simp only [if_true]
      rfl
  | .deadEnd 0, hends =>
      obtain ⟨looked, hlookup, hlooked⟩ := hserves.lookup start hready
      refine ⟨looked, ?_, hlooked⟩
      rw [build, hlookup, show heap.pointer start = none from hends.2]
      rfl
  | .root (hops + 1), hends =>
      refine build_of_leaves hserves hready (hends.1 0 hops.succ_pos) fun opened hopened => ?_
      have hdistinct := hends.rests_of_root.distinct
      obtain ⟨later, hlater, hrounds⟩ :=
        walkAfter_zero hserves hopened hpasses hdistinct fun _ hi => hends.pointer_of_root hi
      exact ⟨later, hrounds.trans (walkAfter_root hserves hlater hends.2), hlater⟩
  | .deadEnd (hops + 1), hends =>
      refine build_of_leaves hserves hready (hends.1 0 hops.succ_pos) fun opened hopened => ?_
      have hdistinct := hends.rests_of_deadEnd.distinct
      -- The walk looks one hop ahead, so the round before the dead end already ends it.
      obtain ⟨middle, hmiddle, hrounds⟩ := walkAfter_zero_of_moves hserves hopened hpasses
        hends.1 (hdistinct.mono (by omega))
      obtain ⟨later, hlater, hlast⟩ := walkAfter_deadEnd hserves hmiddle
        (hpasses hops hops.lt_succ_self) hdistinct hends.2
      exact ⟨later, hrounds.trans hlast, hlater⟩
  | .loop 0, hends =>
      -- Nothing stands before the start that it could repeat.
      obtain ⟨_, _, i, hi, _⟩ := hends
      exact absurd hi (Nat.not_lt_zero i)
  | .loop (hops + 1), hends =>
      obtain ⟨hmoves, hdistinct, hrepeat⟩ := hends
      refine build_of_leaves hserves hready (hmoves 0 hops.succ_pos) fun opened hopened => ?_
      obtain ⟨middle, hmiddle, hrounds⟩ := walkAfter_zero_of_moves hserves hopened hpasses
        hmoves hdistinct
      obtain ⟨later, hlater, hlast⟩ := walkAfter_loop hserves hmiddle
        (hpasses hops hops.lt_succ_self) (hmoves hops hops.lt_succ_self) hrepeat
      exact ⟨later, hrounds.trans hlast, hlater⟩

theorem build_skip_of_ends (hserves : host.Serves heap ready) (hready : ready .outside state)
    {ending : Ending} (hends : heap.Ends start ending) :
    (build host .skip start state).1 = heap.outcome start ending := by
  obtain ⟨later, hbuild, _⟩ := build_of_ends hserves hready hends fun _ _ => Or.inl rfl
  rw [hbuild]

/-- Under the policy that skips missing references, the path of an instance is decided by
the one way in which the trail of the instance ends. -/
theorem build_skip_by_ending (hserves : host.Serves heap ready) (hready : ready .outside state)
    (start : InstanceId) :
    let result := (build host .skip start state).1
    (heap.pointer start = none → result = .ok .noRoot) ∧
      (heap.pointer start = some start → result = .ok .isRoot) ∧
      (heap.pointer start ≠ none → heap.pointer start ≠ some start →
        (∃! ending, heap.Ends start ending) ∧
        ∀ ending, heap.Ends start ending → 1 ≤ ending.hops ∧
          match ending with
          | .root hops =>
              heap.Distinct start (hops + 1) ∧
                ∃ chain, result = .ok (.chain chain) ∧ heap.Records start hops chain ∧
                  chain.steps.length + chain.skipped.length = hops
          | .deadEnd hops =>
              heap.Distinct start (hops + 1) ∧
                result = .error (.inconsistent (.danglingPointer start (heap.trail start hops)))
          | .loop hops =>
              result = .error (.inconsistent (.pointerCycle start (heap.trail start hops)))) := by
  intro result
  have hresult : ∀ ending, heap.Ends start ending → result = heap.outcome start ending :=
    fun ending hends => build_skip_of_ends hserves hready hends
  refine ⟨fun hnone => hresult (.deadEnd 0) ⟨moves_zero, hnone⟩,
    fun hself => hresult (.root 0) ⟨moves_zero, hself⟩,
    fun hnot_none hnot_self => ⟨existsUnique_ends heap start, ?_⟩⟩
  intro ending hends
  cases ending with
  | root hops =>
      cases hops with
      | zero => exact absurd hends.2 hnot_self
      | succ hops =>
          have hrecords := records_ofHops heap start (hops + 1)
          exact ⟨hops.succ_pos, hends.rests_of_root.distinct, _,
            hresult _ hends, hrecords, hrecords.length_eq⟩
  | deadEnd hops =>
      cases hops with
      | zero => exact absurd hends.2 hnot_none
      | succ hops =>
          exact ⟨hops.succ_pos, hends.rests_of_deadEnd.distinct, hresult _ hends⟩
  | loop hops =>
      have hresult := hresult _ hends
      obtain ⟨_, _, i, hi, _⟩ := hends
      exact ⟨Nat.lt_of_le_of_lt (Nat.zero_le i) hi, hresult⟩

/-- With a tracker in use, the path from 1 in the sample heap skips the hop from 2 to 3. -/
theorem build_skip_by_ending_sample :
    let sink : SinkPlan := ⟨true, none, none⟩
    let host := Monitor.host sample .plain sink
    host.Serves sample (Monitor.Ready sink) ∧ Monitor.Ready sink .outside .fresh ∧
      ∃ chain, (build host .skip ⟨1⟩ .fresh).1 = .ok (.chain chain) ∧
        chain.root = ⟨4⟩ ∧
        chain.steps.map (fun step => (step.referrer, step.referent)) =
          [(⟨1⟩, ⟨2⟩), (⟨3⟩, ⟨4⟩)] ∧
        chain.skipped.map (fun hop => (hop.source, hop.target)) = [(⟨2⟩, ⟨3⟩)] := by
  intro sink host
  have hserves : host.Serves sample (Monitor.Ready sink) := Monitor.host_serves sample rfl rfl rfl
  have hready : Monitor.Ready sink .outside .fresh := Monitor.fresh_ready sink
  obtain ⟨_, _, hmoving⟩ := build_skip_by_ending hserves hready ⟨1⟩
  obtain ⟨_, hending⟩ := hmoving (by decide) (by decide)
  obtain ⟨_, _, chain, hbuild, hrecords, _⟩ := hending (.root 3) sample_ends_root
  refine ⟨hserves, hready, chain, hbuild, ?_, ?_, ?_⟩
  · rw [hrecords.root_eq]
    decide
  · rw [hrecords.steps_eq]
    decide
  · rw [hrecords.skipped_eq]
    decide

end Path

end Retention
