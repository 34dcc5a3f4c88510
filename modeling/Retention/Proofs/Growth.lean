import Retention.Proofs.Arrival
import Retention.Proofs.Faithfulness
import Retention.Proofs.HeapLog
import Retention.Proofs.Rounds

/-!
# Heaps that grow

One more operation on a heap changes what it must and nothing else. Instances and references leave
all pointers alone, and so everything that is resolved. A reference comes last among those of its
instance, so it displaces no label and can only bear out the one hop that was skipped for want of
it. A pointer matters to the trails that look it up and to no others.
-/

namespace Retention

/-! ## Paths under either policy -/

namespace HeapView

variable {heap other : HeapView} {policy : MissingEdgePolicy} {start : InstanceId}
  {ending : Ending}

instance (heap : HeapView) (policy : MissingEdgePolicy) (start : InstanceId) (hops : Nat) :
    Decidable (heap.Passes policy start hops) :=
  inferInstanceAs (Decidable (policy = .skip ∨
    heap.edgeBetween (heap.trail start hops) (heap.trail start (hops + 1)) ≠ none))

/-- The first hop of a trail that a policy does not let pass, before the trail ends. -/
def firstGap? (heap : HeapView) (policy : MissingEdgePolicy) (start : InstanceId)
    (ending : Ending) : Option Nat :=
  (List.range ending.hops).find? fun i => ¬ heap.Passes policy start i

/-- What a path comes to under a policy, given how the trail of its start ends: the first gap
decides, and if there is none, the end. -/
def verdict (heap : HeapView) (policy : MissingEdgePolicy) (start : InstanceId)
    (ending : Ending) : Except Failure PathOutcome :=
  match heap.firstGap? policy start ending with
  | some i => .error (.inconsistent (.missingEdge (heap.trail start i) (heap.trail start (i + 1))))
  | none => heap.outcome start ending

theorem firstGap?_eq_none_iff :
    heap.firstGap? policy start ending = none ↔ ∀ i < ending.hops, heap.Passes policy start i := by
  simp [firstGap?]

theorem verdict_skip (heap : HeapView) (start : InstanceId) (ending : Ending) :
    heap.verdict .skip start ending = heap.outcome start ending := by
  rw [verdict, firstGap?_eq_none_iff.mpr fun _ _ => .inl rfl]

/-- A path that comes to something has no gap. -/
theorem passes_of_verdict {outcome : PathOutcome}
    (hverdict : heap.verdict policy start ending = .ok outcome) :
    (∀ i < ending.hops, heap.Passes policy start i) ∧ heap.outcome start ending = .ok outcome := by
  unfold verdict at hverdict
  split at hverdict
  next => cases hverdict
  next hnone => exact ⟨firstGap?_eq_none_iff.mp hnone, hverdict⟩

end HeapView

namespace Path

open HeapView

variable {σ : Type} {host : Host σ} {heap : HeapView} {ready : Phase → σ → Prop}
  {policy : MissingEdgePolicy} {start : InstanceId} {state : σ}

/-- The first hop that does not pass is what a path comes to, whatever the end of the trail. -/
theorem build_of_gap (hserves : host.Serves heap ready) (hready : ready .outside state)
    {ending : Ending} (hends : heap.Ends start ending) {hops : Nat} (hlt : hops < ending.hops)
    (hgap : ¬ heap.Passes policy start hops) (hpasses : ∀ i < hops, heap.Passes policy start i) :
    (build host policy start state).1 = .error (.inconsistent
      (.missingEdge (heap.trail start hops) (heap.trail start (hops + 1)))) := by
  have hmoves : heap.Moves start (hops + 1) := hends.moves.mono hlt
  have hleaves : heap.Leaves start := hmoves 0 hops.succ_pos
  have hwalk : ∀ opened, ready .inside opened → ∃ later,
      walkAfter host heap policy start 0 opened = (.error (.inconsistent
        (.missingEdge (heap.trail start hops) (heap.trail start (hops + 1)))), later) ∧
      ready .inside later := by
    intro opened hopened
    obtain ⟨middle, hmiddle, hrounds⟩ := walkAfter_zero hserves hopened hpasses
      (hends.distinct.mono hlt) fun i hi => (hmoves i (Nat.lt_succ_of_le hi)).pointer_trail
    obtain ⟨scanned, hscan, hscanned⟩ := hserves.scan (heap.trail start hops) hmiddle
    have hround := walkAfter_of_gap (hserves.not_cancelled _ _ hmiddle)
      (hmoves hops hops.lt_succ_self) hgap hscan
    exact ⟨scanned, hrounds.trans hround, hscanned⟩
  obtain ⟨later, hbuild, -⟩ := build_of_leaves hserves hready hleaves hwalk
  rw [hbuild]

/-- How the trail of an instance ends decides its path under either policy. -/
theorem build_eq_verdict (hserves : host.Serves heap ready) (hready : ready .outside state)
    (policy : MissingEdgePolicy) {ending : Ending} (hends : heap.Ends start ending) :
    (build host policy start state).1 = heap.verdict policy start ending := by
  cases hgap : heap.firstGap? policy start ending with
  | none =>
      obtain ⟨later, hbuild, -⟩ :=
        build_of_ends hserves hready hends (firstGap?_eq_none_iff.mp hgap)
      rw [hbuild, verdict, hgap]
  | some hops =>
      obtain ⟨hfails, hlt, hpasses⟩ := List.find?_range_eq_some.mp hgap
      rw [verdict, hgap]
      refine build_of_gap hserves hready hends (List.mem_range.mp hlt) (by simpa using hfails) ?_
      intro i hi
      simpa using hpasses i hi

end Path

/-! ## Heaps that point alike -/

namespace HeapView

variable {heap other : HeapView} {start : InstanceId} {ending : Ending} {hops : Nat}

/-- Another heap has the pointers of the first instances of a trail as they are. -/
def PointsAlike (heap other : HeapView) (start : InstanceId) (hops : Nat) : Prop :=
  ∀ i ≤ hops, other.pointer (heap.trail start i) = heap.pointer (heap.trail start i)

/-- The trail of an instance does not come to another one, up to where it ends. -/
def Avoids (heap : HeapView) (start id : InstanceId) : Prop :=
  ∀ ending, heap.Ends start ending → ∀ i ≤ ending.hops, heap.trail start i ≠ id

namespace PointsAlike

theorem of_eq (hpointer : other.pointer = heap.pointer) (start : InstanceId) (hops : Nat) :
    heap.PointsAlike other start hops := by
  intro i _
  rw [hpointer]

theorem trail_eq (halike : heap.PointsAlike other start hops) {i : Nat} (hi : i ≤ hops + 1) :
    other.trail start i = heap.trail start i := by
  induction i with
  | zero => rfl
  | succ i ih =>
      rw [trail_succ, trail_succ, ih (by omega), advance, advance, halike i (by omega)]

theorem pointer_eq (halike : heap.PointsAlike other start hops) {i : Nat} (hi : i ≤ hops) :
    other.pointer (other.trail start i) = heap.pointer (heap.trail start i) := by
  rw [halike.trail_eq (by omega), halike i hi]

theorem moves (halike : heap.PointsAlike other start hops) (hmoves : heap.Moves start hops) :
    other.Moves start hops := by
  intro i hi
  obtain ⟨next, hpointer, hne⟩ := hmoves i hi
  refine ⟨next, (halike.pointer_eq hi.le).trans hpointer, ?_⟩
  rwa [halike.trail_eq (by omega)]

/-- Where pointers are alike, trails end alike. -/
theorem ends (halike : heap.PointsAlike other start ending.hops)
    (hends : heap.Ends start ending) : other.Ends start ending := by
  cases ending with
  | root hops =>
      refine ⟨halike.moves hends.1, ?_⟩
      rw [halike.pointer_eq (Nat.le_refl hops), halike.trail_eq (Nat.le_succ hops)]
      exact hends.2
  | deadEnd hops =>
      refine ⟨halike.moves hends.1, ?_⟩
      rw [halike.pointer_eq (Nat.le_refl hops)]
      exact hends.2
  | loop hops =>
      obtain ⟨hmoves, hdistinct, i, hi, heq⟩ := hends
      have htrail : ∀ j ≤ hops, other.trail start j = heap.trail start j :=
        fun j hj => halike.trail_eq (Nat.le_succ_of_le hj)
      refine ⟨halike.moves hmoves, fun j k hjk hk => ?_, i, hi, ?_⟩
      · rw [htrail j (by omega), htrail k (by omega)]
        exact hdistinct j k hjk hk
      · rwa [htrail i (by omega), htrail hops (Nat.le_refl _)]

theorem settled_eq (halike : heap.PointsAlike other start ending.hops) (limit : UInt64) :
    other.settled limit start ending = heap.settled limit start ending := by
  cases ending with
  | root hops => rw [settled, settled, halike.trail_eq (Nat.le_succ hops)]
  | deadEnd hops => rfl
  | loop hops => rfl

end PointsAlike

theorem resolved_of_ends (limit : UInt64) (hends : heap.Ends start ending) :
    heap.resolved limit start = heap.settled limit start ending := by
  obtain ⟨later, hresolve, -⟩ := @Resolution.resolve_of_ends _ _ _ _ .outside _ _
    (Host.quiet_serves heap) trivial limit _ hends
  rw [resolved, hresolve]

/-- Heaps that point alike along a trail resolve its start to the same. -/
theorem PointsAlike.resolved_eq (halike : heap.PointsAlike other start ending.hops)
    (hends : heap.Ends start ending) (limit : UInt64) :
    other.resolved limit start = heap.resolved limit start := by
  rw [resolved_of_ends limit hends, resolved_of_ends limit (halike.ends hends),
    halike.settled_eq]

end HeapView

/-! ## Hops that are borne out -/

/-- What becomes of a hop when the reference of a step is found. -/
def Hop.bearOut (step : ChainStep) (hop : Hop) : Hop :=
  if hop = .skipped ⟨step.referrer, step.referent⟩ then .found step else hop

theorem Hop.bearOut_of_ne {step : ChainStep} {hop : Hop}
    (hne : hop ≠ .skipped ⟨step.referrer, step.referent⟩) : hop.bearOut step = hop :=
  if_neg hne

theorem Hop.map_bearOut_of_not_mem {step : ChainStep} {hops : List Hop}
    (hnot : .skipped ⟨step.referrer, step.referent⟩ ∉ hops) :
    hops.map (Hop.bearOut step) = hops := by
  refine (List.map_congr_left fun hop hmem => ?_).trans (List.map_id hops)
  exact Hop.bearOut_of_ne fun heq => hnot (heq ▸ hmem)

/-- A chain as it is with a step in place of a skipped hop: the hops before and behind it on the
way to the root stay what they are. -/
def RootChain.BearsOut (chain filled : RootChain) (step : ChainStep) : Prop :=
  ∃ before after,
    Route chain.start (before ++ .skipped ⟨step.referrer, step.referent⟩ :: after) chain.root ∧
      Simple chain.start (before ++ .skipped ⟨step.referrer, step.referent⟩ :: after) ∧
      chain = .ofHops chain.start chain.root
        (before ++ .skipped ⟨step.referrer, step.referent⟩ :: after) ∧
      filled = .ofHops chain.start chain.root (before ++ .found step :: after)

/-- On a route that comes through no instance twice, a step stands in for one hop only. -/
theorem Simple.map_bearOut {start : InstanceId} {before after : List Hop} {step : ChainStep}
    (hsimple : Simple start (before ++ .skipped ⟨step.referrer, step.referent⟩ :: after)) :
    (before ++ .skipped ⟨step.referrer, step.referent⟩ :: after).map (Hop.bearOut step) =
      before ++ .found step :: after := by
  have htargets := (List.nodup_cons.mp hsimple).2
  rw [List.map_append, List.map_cons, List.nodup_append, List.nodup_cons] at htargets
  obtain ⟨-, ⟨hbehind, -⟩, hdisjoint⟩ := htargets
  have hbefore : .skipped ⟨step.referrer, step.referent⟩ ∉ before :=
    fun hmem => hdisjoint _ (List.mem_map_of_mem hmem) _ List.mem_cons_self rfl
  have hafter : .skipped ⟨step.referrer, step.referent⟩ ∉ after :=
    fun hmem => hbehind (List.mem_map_of_mem hmem)
  rw [List.map_append, List.map_cons, Hop.map_bearOut_of_not_mem hbefore,
    Hop.map_bearOut_of_not_mem hafter]
  simp [Hop.bearOut]

namespace HeapView

variable {heap other : HeapView} {start : InstanceId} {ending : Ending} {step : ChainStep}

/-- Another heap is the same but for one more reference, which comes last among those of its
instance. -/
structure Adds (heap other : HeapView) (step : ChainStep) : Prop where
  pointer_eq : other.pointer = heap.pointer
  references_eq : ∀ id, other.references id =
    if step.referrer = id then heap.references id ++ [⟨step.edge, step.referent⟩]
    else heap.references id

/-- A further reference is found where there was none before. -/
theorem Adds.edgeBetween_eq (hadds : heap.Adds other step) (source target : InstanceId) :
    other.edgeBetween source target = (heap.edgeBetween source target).or
      (if step.referrer = source ∧ step.referent = target then some step.edge else none) := by
  unfold edgeBetween Reference.firstTo
  rw [hadds.references_eq]
  by_cases hsource : step.referrer = source
  · rw [if_pos hsource, List.find?_append, Option.map_or]
    by_cases htarget : step.referent = target
    · simp [hsource, htarget]
    · simp [hsource, htarget]
  · simp [hsource]

theorem Adds.hopAt_eq (hadds : heap.Adds other step) (start : InstanceId) (i : Nat) :
    other.hopAt start i = (heap.hopAt start i).bearOut step := by
  have htrail : ∀ j, other.trail start j = heap.trail start j :=
    fun j => (PointsAlike.of_eq hadds.pointer_eq start j).trail_eq (Nat.le_succ j)
  unfold hopAt
  rw [htrail, htrail, hadds.edgeBetween_eq]
  cases heap.edgeBetween (heap.trail start i) (heap.trail start (i + 1)) with
  | some edge => exact (Hop.bearOut_of_ne (by simp)).symm
  | none =>
      by_cases hstep :
          step.referrer = heap.trail start i ∧ step.referent = heap.trail start (i + 1)
      · obtain ⟨hsource, htarget⟩ := hstep
        simp [Hop.bearOut, ← hsource, ← htarget]
      · have hother : Hop.skipped ⟨heap.trail start i, heap.trail start (i + 1)⟩ ≠
            .skipped ⟨step.referrer, step.referent⟩ := by
          intro heq
          simp only [Hop.skipped.injEq, SkippedHop.mk.injEq] at heq
          exact hstep ⟨heq.1.symm, heq.2.symm⟩
        simp only [Option.none_or, hstep, if_false, Hop.bearOut_of_ne hother]

theorem Adds.hopsTo_eq (hadds : heap.Adds other step) (start : InstanceId) (hops : Nat) :
    other.hopsTo start hops = (heap.hopsTo start hops).map (Hop.bearOut step) := by
  simp only [hopsTo, List.map_map]
  exact List.map_congr_left fun i _ => hadds.hopAt_eq start i

/-- Heaps that point alike along a trail lead its start to the same, but perhaps for the hops that a
chain records. -/
theorem PointsAlike.outcome_eq (halike : heap.PointsAlike other start ending.hops)
    (hhops : ∀ chain, heap.outcome start ending = .ok (.chain chain) →
      other.hopsTo start ending.hops = heap.hopsTo start ending.hops) :
    other.outcome start ending = heap.outcome start ending := by
  have htrail : other.trail start ending.hops = heap.trail start ending.hops :=
    halike.trail_eq (Nat.le_succ _)
  match ending with
  | .root 0 => rfl
  | .root (hops + 1) =>
      have hsame : other.hopsTo start (hops + 1) = heap.hopsTo start (hops + 1) := hhops _ rfl
      rw [outcome, outcome, show other.trail start (hops + 1) = _ from htrail, hsame]
      rfl
  | .deadEnd 0 => rfl
  | .deadEnd (hops + 1) =>
      rw [outcome, outcome, show other.trail start (hops + 1) = _ from htrail]
      rfl
  | .loop hops =>
      rw [outcome, outcome, show other.trail start hops = _ from htrail]
      rfl

/-- With a further reference a path comes to the same, but that a hop skipped for want of it is a
step. -/
theorem Adds.outcome_skip (hadds : heap.Adds other step) (hends : heap.Ends start ending) :
    (∀ chain, heap.outcome start ending = .ok (.chain chain) →
        ⟨step.referrer, step.referent⟩ ∈ chain.skipped →
        ∃ filled, other.outcome start ending = .ok (.chain filled) ∧ chain.BearsOut filled step) ∧
      ((∀ chain, heap.outcome start ending = .ok (.chain chain) →
          ⟨step.referrer, step.referent⟩ ∉ chain.skipped) →
        other.outcome start ending = heap.outcome start ending) := by
  constructor
  · intro chain houtcome hskipped
    obtain ⟨hops, rfl, rfl⟩ := ends_of_outcome_chain houtcome
    obtain ⟨before, after, hsplit⟩ :=
      List.append_of_mem (RootChain.mem_skipped_iff.mp hskipped)
    have hroute := heap.route_hopsTo start (hops + 1)
    have hsimple : Simple start (heap.hopsTo start (hops + 1)) :=
      hends.rests_of_root.distinct.simple
    have hfilled := hadds.hopsTo_eq start (hops + 1)
    have htrail : other.trail start (hops + 1) = heap.trail start (hops + 1) :=
      (PointsAlike.of_eq hadds.pointer_eq start _).trail_eq (Nat.le_succ _)
    rw [hsplit] at hroute hsimple hfilled
    rw [hsimple.map_bearOut] at hfilled
    refine ⟨_, rfl, before, after, hroute, hsimple, ?_, ?_⟩
    · rw [hsplit]
      rfl
    · rw [hfilled, htrail]
      rfl
  · intro hnone
    apply (PointsAlike.of_eq hadds.pointer_eq start ending.hops).outcome_eq
    intro chain houtcome
    have hnot := hnone chain houtcome
    obtain ⟨hops, rfl, rfl⟩ := ends_of_outcome_chain houtcome
    rw [hadds.hopsTo_eq]
    exact Hop.map_bearOut_of_not_mem fun hmem => hnot (RootChain.mem_skipped_iff.mpr hmem)

theorem Adds.passes (hadds : heap.Adds other step) {policy : MissingEdgePolicy} {i : Nat}
    (hpasses : heap.Passes policy start i) : other.Passes policy start i := by
  have htrail : ∀ j, other.trail start j = heap.trail start j :=
    fun j => (PointsAlike.of_eq hadds.pointer_eq start j).trail_eq (Nat.le_succ j)
  refine hpasses.imp_right fun hfound => ?_
  rw [htrail, htrail, hadds.edgeBetween_eq]
  simp [hfound]

/-- A chain of a walk without gaps skips nothing. -/
theorem not_mem_skipped_of_passes {hops : Nat}
    (hpasses : ∀ i < hops, heap.Passes .fail start i) (skipped : SkippedHop) :
    .skipped skipped ∉ heap.hopsTo start hops := by
  intro hmem
  obtain ⟨i, hi, hhop⟩ := List.mem_map.mp hmem
  obtain ⟨edge, hedge⟩ := Option.ne_none_iff_exists'.mp
    ((hpasses i (List.mem_range.mp hi)).resolve_left MissingEdgePolicy.noConfusion)
  rw [hopAt, hedge] at hhop
  cases hhop

/-- A path that misses no reference comes to the same with a further one. -/
theorem Adds.verdict_fail (hadds : heap.Adds other step) (hends : heap.Ends start ending)
    {outcome : PathOutcome} (hverdict : heap.verdict .fail start ending = .ok outcome) :
    other.verdict .fail start ending = .ok outcome := by
  obtain ⟨hpasses, houtcome⟩ := passes_of_verdict hverdict
  rw [verdict, firstGap?_eq_none_iff.mpr fun i hi => hadds.passes (hpasses i hi)]
  refine ((hadds.outcome_skip hends).2 fun chain hchain hskipped => ?_).trans houtcome
  obtain ⟨hops, rfl, rfl⟩ := ends_of_outcome_chain hchain
  exact not_mem_skipped_of_passes hpasses _ (RootChain.mem_skipped_iff.mp hskipped)

/-- Heaps that point alike along a trail and hold the same references have the same path from its
start. -/
theorem PointsAlike.verdict_eq (halike : heap.PointsAlike other start ending.hops)
    (hreferences : other.references = heap.references) (policy : MissingEdgePolicy) :
    other.verdict policy start ending = heap.verdict policy start ending := by
  have hedge : other.edgeBetween = heap.edgeBetween := by
    funext source target
    rw [edgeBetween, edgeBetween, hreferences]
  have htrail : ∀ i ≤ ending.hops, other.trail start i = heap.trail start i :=
    fun i hi => halike.trail_eq (Nat.le_succ_of_le hi)
  have hgap : other.firstGap? policy start ending = heap.firstGap? policy start ending := by
    apply List.find?_congr
    intro i hi
    have hlt := List.mem_range.mp hi
    refine decide_eq_decide.mpr (not_congr ?_)
    rw [Passes, Passes, hedge, htrail i hlt.le, htrail (i + 1) hlt]
  have houtcome : other.outcome start ending = heap.outcome start ending := by
    refine halike.outcome_eq fun _ _ => List.map_congr_left fun i hi => ?_
    have hlt := List.mem_range.mp hi
    rw [hopAt, hopAt, hedge, htrail i hlt.le, htrail (i + 1) hlt]
  unfold verdict
  rw [hgap, houtcome]
  cases hfirst : heap.firstGap? policy start ending with
  | none => rfl
  | some i =>
      have hlt := List.mem_range.mp (List.find?_range_eq_some.mp hfirst).2.1
      simp only [htrail i hlt.le, htrail (i + 1) hlt]

end HeapView

/-! ## Operations -/

namespace HeapOperation

variable {operation : HeapOperation}

/-- An operation that adds a reference sets no pointer. -/
theorem pointer?_eq_none {source : InstanceId} {reference : Reference}
    (hreference : operation.reference? = some (source, reference)) : operation.pointer? = none := by
  cases operation with
  | addInstance => rfl
  | addReference => rfl
  | addField => rfl
  | addSlot => rfl
  | setPointer => cases hreference
  | markRoot => cases hreference

theorem reference?_eq_none {id next : InstanceId}
    (hpointer : operation.pointer? = some (id, next)) : operation.reference? = none := by
  cases hreference : operation.reference? with
  | none => rfl
  | some added =>
      rw [pointer?_eq_none hreference] at hpointer
      cases hpointer

end HeapOperation

namespace GraphHeap

section

variable {G : Type} [Multigraph G] [LawfulMultigraph G] {operations : List HeapOperation}
  {operation : HeapOperation} (hroom : HasRoom G (operations ++ [operation]))

include hroom

theorem pointer_concat (id : InstanceId) :
    (build (operations ++ [operation]) : GraphHeap G).pointer id =
      (valuesAt (operations.filterMap HeapOperation.pointer? ++ operation.pointer?.toList)
        id).getLast? := by
  rw [(reflects_build hroom).pointer_eq, filterMap_concat]

theorem references_concat (id : InstanceId) :
    (build (operations ++ [operation]) : GraphHeap G).references id =
      valuesAt (operations.filterMap HeapOperation.reference? ++ operation.reference?.toList)
        id := by
  rw [(reflects_build hroom).references_eq, filterMap_concat]

/-- An operation that sets no pointer leaves all as they are. -/
theorem pointer_kept (hnone : operation.pointer? = none) :
    (build (operations ++ [operation]) : GraphHeap G).view.pointer =
      (build operations : GraphHeap G).view.pointer := by
  funext id
  refine (pointer_concat hroom id).trans ?_
  rw [hnone, Option.toList_none, List.append_nil]
  exact ((reflects_build hroom.of_append).pointer_eq id).symm

theorem pointer_kept_of_ne {id next other : InstanceId}
    (hpointer : operation.pointer? = some (id, next)) (hne : other ≠ id) :
    (build (operations ++ [operation]) : GraphHeap G).view.pointer other =
      (build operations : GraphHeap G).view.pointer other := by
  refine (pointer_concat hroom other).trans ?_
  rw [hpointer, Option.toList_some, valuesAt_concat, if_neg (Ne.symm hne)]
  exact ((reflects_build hroom.of_append).pointer_eq other).symm

theorem references_kept (hnone : operation.reference? = none) :
    (build (operations ++ [operation]) : GraphHeap G).view.references =
      (build operations : GraphHeap G).view.references := by
  funext id
  refine (references_concat hroom id).trans ?_
  rw [hnone, Option.toList_none, List.append_nil]
  exact ((reflects_build hroom.of_append).references_eq id).symm

theorem adds_reference {source : InstanceId} {reference : Reference}
    (hreference : operation.reference? = some (source, reference)) :
    (build operations : GraphHeap G).view.Adds
      (build (operations ++ [operation]) : GraphHeap G).view
      ⟨source, reference.target, reference.edge⟩ where
  pointer_eq := pointer_kept hroom (HeapOperation.pointer?_eq_none hreference)
  references_eq id := by
    refine (references_concat hroom id).trans ?_
    rw [hreference, Option.toList_some, valuesAt_concat,
      ← (reflects_build hroom.of_append).references_eq]
    rfl

/-- A pointer that a trail does not look up leaves the trail as it is. -/
theorem pointsAlike_of_avoids {id next start : InstanceId}
    (hpointer : operation.pointer? = some (id, next)) {ending : HeapView.Ending}
    (hends : (build operations : GraphHeap G).view.Ends start ending)
    (havoids : (build operations : GraphHeap G).view.Avoids start id) :
    (build operations : GraphHeap G).view.PointsAlike
      (build (operations ++ [operation]) : GraphHeap G).view start ending.hops :=
  fun i hi => pointer_kept_of_ne hroom hpointer (havoids ending hends i hi)

end

end GraphHeap

/-! ## Analyses of a heap that has grown -/

section Analyses

variable {σ τ : Type} {host : Host σ} {grown : Host τ} {heap other : HeapView}
  {ready : Phase → σ → Prop} {begun : Phase → τ → Prop} {state : σ} {later : τ}

/-- Two runs that resolve instances alike group them alike, in either form. -/
theorem Aggregation.same_groups (hserves : host.Serves heap ready) (hready : ready .outside state)
    (hgrown : grown.Serves other begun) (hbegun : begun .outside later) {limit : UInt64}
    {instances : List InstanceId}
    (hsame : ∀ id ∈ instances, other.resolved limit id = heap.resolved limit id)
    (expected : UInt64) :
    (sequential grown limit instances expected later).1 =
        (sequential host limit instances expected state).1 ∧
      (exhaustive grown limit instances later).1 = (exhaustive host limit instances state).1 := by
  have hvisits : instances.map (fun id => (id, other.resolved limit id)) =
      instances.map fun id => (id, heap.resolved limit id) :=
    List.map_congr_left fun id hid => by rw [hsame id hid]
  rw [sequential_serves hgrown hbegun, sequential_serves hserves hready,
    exhaustive_serves hgrown hbegun, exhaustive_serves hserves hready, hvisits]
  exact ⟨rfl, rfl⟩

theorem Resolution.same_key (hserves : host.Serves heap ready) (hready : ready .outside state)
    (hgrown : grown.Serves other begun) (hbegun : begun .outside later) {limit : UInt64}
    {id : InstanceId} (hsame : other.resolved limit id = heap.resolved limit id) :
    (resolve grown limit id later).1 = (resolve host limit id state).1 := by
  obtain ⟨_, hresolve, -⟩ := resolve_serves hserves hready limit id
  obtain ⟨_, hresolve', -⟩ := resolve_serves hgrown hbegun limit id
  rw [hresolve, hresolve', hsame]

open GraphHeap HeapView

/-- What one more operation changes in a heap whose graph has room for it. One that sets no pointer
changes nothing that is resolved or grouped. One that adds a reference changes a path that skips
missing references only in that the hop which was skipped for want of this reference is a step, at
its place on the way; and a path that fails on missing references still comes to what it came to.
One that sets a pointer changes nothing for instances whose trails do not look that pointer up. -/
theorem operation_changes_only {G : Type} [Multigraph G] [LawfulMultigraph G]
    (operations : List HeapOperation) (operation : HeapOperation)
    (hroom : HasRoom G (operations ++ [operation]))
    (hserves : host.Serves (build operations : GraphHeap G).view ready)
    (hready : ready .outside state)
    (hgrown : grown.Serves (build (operations ++ [operation]) : GraphHeap G).view begun)
    (hbegun : begun .outside later) :
    (operation.pointer? = none → ∀ limit,
      (∀ id, (Resolution.resolve grown limit id later).1 =
        (Resolution.resolve host limit id state).1) ∧
      ∀ instances expected,
        (Aggregation.sequential grown limit instances expected later).1 =
            (Aggregation.sequential host limit instances expected state).1 ∧
          (Aggregation.exhaustive grown limit instances later).1 =
            (Aggregation.exhaustive host limit instances state).1) ∧
    (∀ source edge target, operation.reference? = some (source, ⟨edge, target⟩) → ∀ start,
      (∀ chain, (Path.build host .skip start state).1 = .ok (.chain chain) →
        ⟨source, target⟩ ∈ chain.skipped →
        ∃ filled, (Path.build grown .skip start later).1 = .ok (.chain filled) ∧
          chain.BearsOut filled ⟨source, target, edge⟩) ∧
      ((∀ chain, (Path.build host .skip start state).1 = .ok (.chain chain) →
          ⟨source, target⟩ ∉ chain.skipped) →
        (Path.build grown .skip start later).1 = (Path.build host .skip start state).1) ∧
      ∀ outcome, (Path.build host .fail start state).1 = .ok outcome →
        (Path.build grown .fail start later).1 = .ok outcome) ∧
    ∀ id next, operation.pointer? = some (id, next) →
      (∀ start, (build operations : GraphHeap G).view.Avoids start id →
        (∀ limit, (Resolution.resolve grown limit start later).1 =
          (Resolution.resolve host limit start state).1) ∧
        ∀ policy, (Path.build grown policy start later).1 =
          (Path.build host policy start state).1) ∧
      ∀ limit instances expected,
        (∀ start ∈ instances, (build operations : GraphHeap G).view.Avoids start id) →
        (Aggregation.sequential grown limit instances expected later).1 =
            (Aggregation.sequential host limit instances expected state).1 ∧
          (Aggregation.exhaustive grown limit instances later).1 =
            (Aggregation.exhaustive host limit instances state).1 := by
  refine ⟨fun hnone limit => ?_, fun source edge target hreference start => ?_,
    fun id next hpointer => ?_⟩
  · have hsame : ∀ id, (build (operations ++ [operation]) : GraphHeap G).view.resolved limit id =
        (build operations : GraphHeap G).view.resolved limit id := by
      intro id
      obtain ⟨ending, hends⟩ := exists_ends (build operations : GraphHeap G).view id
      exact (PointsAlike.of_eq (pointer_kept hroom hnone) id _).resolved_eq hends limit
    exact ⟨fun id => Resolution.same_key hserves hready hgrown hbegun (hsame id),
      fun instances expected => Aggregation.same_groups hserves hready hgrown hbegun
        (fun id _ => hsame id) expected⟩
  · have hadds := adds_reference hroom hreference
    obtain ⟨ending, hends⟩ := exists_ends (build operations : GraphHeap G).view start
    have hends' := (PointsAlike.of_eq hadds.pointer_eq start _).ends hends
    simp only [Path.build_eq_verdict hserves hready _ hends,
      Path.build_eq_verdict hgrown hbegun _ hends', verdict_skip]
    obtain ⟨hfilled, hkept⟩ := hadds.outcome_skip hends
    exact ⟨hfilled, hkept, fun outcome => hadds.verdict_fail hends⟩
  · have hsame : ∀ start, (build operations : GraphHeap G).view.Avoids start id →
        ∀ limit, (build (operations ++ [operation]) : GraphHeap G).view.resolved limit start =
          (build operations : GraphHeap G).view.resolved limit start := by
      intro start havoids limit
      obtain ⟨ending, hends⟩ := exists_ends (build operations : GraphHeap G).view start
      exact (pointsAlike_of_avoids hroom hpointer hends havoids).resolved_eq hends limit
    refine ⟨fun start havoids => ⟨fun limit => ?_, fun policy => ?_⟩,
      fun limit instances expected havoids => ?_⟩
    · exact Resolution.same_key hserves hready hgrown hbegun (hsame start havoids limit)
    · obtain ⟨ending, hends⟩ := exists_ends (build operations : GraphHeap G).view start
      have halike := pointsAlike_of_avoids hroom hpointer hends havoids
      rw [Path.build_eq_verdict hserves hready policy hends,
        Path.build_eq_verdict hgrown hbegun policy (halike.ends hends)]
      exact halike.verdict_eq
        (references_kept hroom (HeapOperation.reference?_eq_none hpointer)) policy
    · exact Aggregation.same_groups hserves hready hgrown hbegun
        (fun start hstart => hsame start (havoids start hstart) limit) expected

/-- The path from 1 over 2 to the root 3 skips its second hop until the reference of that hop is
added. A pointer from 9 has no part in it. -/
theorem operation_changes_only_sample :
    let operations : List HeapOperation :=
      [.setPointer ⟨1⟩ ⟨2⟩, .setPointer ⟨2⟩ ⟨3⟩, .markRoot ⟨3⟩, .addField ⟨1⟩ "next" ⟨2⟩]
    let added : HeapOperation := .addSlot ⟨2⟩ 4 ⟨3⟩
    let turned : HeapOperation := .setPointer ⟨9⟩ ⟨1⟩
    let host (operations : List HeapOperation) : Host Monitor :=
      Monitor.host (build operations : MemoryHeap).view .plain ⟨true, none, none⟩
    (∀ limit, (Resolution.resolve (host (operations ++ [.addInstance ⟨8⟩])) limit ⟨1⟩ .fresh).1 =
        (Resolution.resolve (host operations) limit ⟨1⟩ .fresh).1) ∧
      (∃ filled, (Path.build (host (operations ++ [added])) .skip ⟨1⟩ .fresh).1 =
          .ok (.chain filled) ∧
        RootChain.BearsOut ⟨⟨1⟩, ⟨3⟩, [⟨⟨1⟩, ⟨2⟩, .field "next"⟩], [⟨⟨2⟩, ⟨3⟩⟩]⟩ filled
          ⟨⟨2⟩, ⟨3⟩, .slot 4⟩) ∧
      ∀ policy, (Path.build (host (operations ++ [turned])) policy ⟨1⟩ .fresh).1 =
        (Path.build (host operations) policy ⟨1⟩ .fresh).1 := by
  intro operations added turned host
  have hserves : ∀ operations, (host operations).Serves (build operations : MemoryHeap).view
      (Monitor.Ready ⟨true, none, none⟩) := fun _ => Monitor.host_serves _ rfl rfl rfl
  have hready : Monitor.Ready ⟨true, none, none⟩ .outside .fresh := Monitor.fresh_ready _
  have hbuild : (Path.build (host operations) .skip ⟨1⟩ .fresh).1 =
      .ok (.chain ⟨⟨1⟩, ⟨3⟩, [⟨⟨1⟩, ⟨2⟩, .field "next"⟩], [⟨⟨2⟩, ⟨3⟩⟩]⟩) := by
    subst host operations
    cbv
  have hroom : ∀ operations, HasRoom Adjacency operations := fun _ => .of_unlimited rfl
  obtain ⟨hresolved, -, -⟩ := operation_changes_only (G := Adjacency) operations (.addInstance ⟨8⟩)
    (hroom _) (hserves _) hready (hserves _) hready
  obtain ⟨-, hpaths, -⟩ := operation_changes_only (G := Adjacency) operations added
    (hroom _) (hserves _) hready (hserves _) hready
  obtain ⟨-, -, hturns⟩ := operation_changes_only (G := Adjacency) operations turned
    (hroom _) (hserves _) hready (hserves _) hready
  obtain ⟨hfilled, -, -⟩ := hpaths ⟨2⟩ (.slot 4) ⟨3⟩ rfl ⟨1⟩
  obtain ⟨hkept, -⟩ := hturns ⟨9⟩ ⟨1⟩ rfl
  refine ⟨fun limit => (hresolved rfl limit).1 ⟨1⟩, hfilled _ hbuild List.mem_cons_self,
    (hkept ⟨1⟩ ?_).2⟩
  have hone : (build operations : MemoryHeap).view.pointer ⟨1⟩ = some ⟨2⟩ := by
    subst host operations
    cbv
  have htwo : (build operations : MemoryHeap).view.pointer ⟨2⟩ = some ⟨3⟩ := by
    subst host operations
    cbv
  have hthree : (build operations : MemoryHeap).view.pointer ⟨3⟩ = some ⟨3⟩ := by
    subst host operations
    cbv
  have hsecond : (build operations : MemoryHeap).view.trail ⟨1⟩ 1 = ⟨2⟩ := advance_of_pointer hone
  have hthird : (build operations : MemoryHeap).view.trail ⟨1⟩ 2 = ⟨3⟩ := by
    rw [trail_succ, hsecond, advance_of_pointer htwo]
  have hends : (build operations : MemoryHeap).view.Ends ⟨1⟩ (.root 2) := by
    refine ⟨fun i hi => ?_, by rw [hthird, hthree]⟩
    obtain rfl | rfl : i = 0 ∨ i = 1 := by omega
    · exact ⟨⟨2⟩, hone, by decide⟩
    · exact ⟨⟨3⟩, by rw [hsecond, htwo], by rw [hsecond]; decide⟩
  intro ending hending i hi
  obtain rfl := hending.unique hends
  obtain rfl | rfl | rfl : i = 0 ∨ i = 1 ∨ i = 2 := by
    change i ≤ 2 at hi
    omega
  · decide
  · rw [hsecond]
    decide
  · rw [hthird]
    decide

end Analyses

end Retention
