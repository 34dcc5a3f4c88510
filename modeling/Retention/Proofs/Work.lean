import Mathlib.Algebra.BigOperators.Group.List.Basic
import Mathlib.Data.List.Nodup
import Retention.Proofs.HeapLog
import Retention.Proofs.Rounds
import Retention.Proofs.Visits

/-!
# The work of an analysis

The work that an analysis makes for its host is how often it asks for what. A path has no budget,
and yet its work is bounded by the heap: it looks up no instance twice, and none that the heap does
not have, unless it is the start. What it costs depends on how it ends and on after how many hops.
The cost of a successful aggregation is the sum of what its instances cost.
-/

namespace Retention

/-- How often a host is asked for what. -/
@[ext] structure Work where
  prepares : Nat
  lookups : Nat
  scans : Nat
  steps : Nat
deriving DecidableEq, Repr

namespace Work

instance : Zero Work :=
  ⟨⟨0, 0, 0, 0⟩⟩

instance : Add Work :=
  ⟨fun first second => ⟨first.prepares + second.prepares, first.lookups + second.lookups,
    first.scans + second.scans, first.steps + second.steps⟩⟩

theorem zero_def : (0 : Work) = ⟨0, 0, 0, 0⟩ :=
  rfl

@[simp] theorem mk_add_mk (prepares lookups scans steps prepares' lookups' scans' steps' : Nat) :
    (⟨prepares, lookups, scans, steps⟩ + ⟨prepares', lookups', scans', steps'⟩ : Work) =
      ⟨prepares + prepares', lookups + lookups', scans + scans', steps + steps'⟩ :=
  rfl

instance : AddMonoid Work where
  add_assoc first second third := by
    ext <;> exact Nat.add_assoc ..
  zero_add work := by
    ext <;> exact Nat.zero_add _
  add_zero work := rfl
  nsmul := nsmulRec

end Work

namespace HostCall

/-- The work of a single call. -/
def work : HostCall → Work
  | .prepare _ => ⟨1, 0, 0, 0⟩
  | .lookup _ => ⟨0, 1, 0, 0⟩
  | .scan _ => ⟨0, 0, 1, 0⟩
  | .setup _ _ => 0
  | .step _ => ⟨0, 0, 0, 1⟩
  | .finish => 0

end HostCall

/-- The work of calls that are made one after another. -/
def workOf (calls : List HostCall) : Work :=
  (calls.map HostCall.work).sum

@[simp] theorem workOf_nil : workOf [] = 0 :=
  rfl

@[simp] theorem workOf_cons (call : HostCall) (calls : List HostCall) :
    workOf (call :: calls) = call.work + workOf calls :=
  List.sum_cons

@[simp] theorem workOf_append (first second : List HostCall) :
    workOf (first ++ second) = workOf first + workOf second := by
  unfold workOf
  rw [List.map_append, List.sum_append]

namespace HeapView

theorem workOf_lookups (heap : HeapView) (start : InstanceId) (count : Nat) :
    workOf (heap.lookups start count) = ⟨0, count, 0, 0⟩ := by
  induction count with
  | zero => rfl
  | succ count ih =>
      have hlast : heap.lookups start (count + 1) =
          heap.lookups start count ++ [.lookup (heap.trail start count)] := by
        unfold lookups
        rw [List.range_succ, List.map_append, List.map_singleton]
      rw [hlast, workOf_append, ih]
      rfl

theorem workOf_rounds (heap : HeapView) (start : InstanceId) (hops : Nat) :
    workOf (heap.rounds start hops) = ⟨0, hops, hops, hops⟩ := by
  induction hops with
  | zero => rfl
  | succ hops ih =>
      rw [rounds_succ, workOf_append, ih]
      rfl

/-- A path costs a look-up, its whole rounds and what is left of the last round. -/
theorem workOf_pathCalls (heap : HeapView) (start : InstanceId) (hops : Nat)
    (last : List HostCall) :
    workOf (heap.pathCalls start hops last) = ⟨0, hops + 1, hops, hops⟩ + workOf last := by
  have hclosed : workOf (heap.rounds start hops ++ last ++ [.finish]) =
      ⟨0, hops, hops, hops⟩ + workOf last := by
    rw [workOf_append, workOf_append, workOf_rounds]
    exact add_zero _
  rw [pathCalls, workOf_cons, workOf_cons, hclosed, ← add_assoc, ← add_assoc]
  simp only [HostCall.work, Work.zero_def, Work.mk_add_mk, Nat.zero_add, Nat.add_comm 1]

end HeapView

/-! ## Paths -/

namespace Path

open HeapView

variable {σ : Type} {host : Host σ} {heap : HeapView} {ready : Phase → σ → Prop}
  {policy : MissingEdgePolicy} {start : InstanceId} {recorded : Recorded σ}

/-- What a path costs that comes to a result, after the preparation. -/
inductive Costs (heap : HeapView) (policy : MissingEdgePolicy) (start : InstanceId) :
    Except Failure PathOutcome → Work → Prop
  | noRoot (hends : heap.Ends start (.deadEnd 0)) :
      Costs heap policy start (.ok .noRoot) ⟨0, 1, 0, 0⟩
  | isRoot (hends : heap.Ends start (.root 0)) :
      Costs heap policy start (.ok .isRoot) ⟨0, 1, 0, 0⟩
  | chain {hops : Nat} {chain : RootChain} (hpos : 0 < hops)
      (hends : heap.Ends start (.root hops))
      (hlength : chain.steps.length + chain.skipped.length = hops) :
      Costs heap policy start (.ok (.chain chain)) ⟨0, hops + 1, hops, hops⟩
  | cycle {hops : Nat} (hends : heap.Ends start (.loop hops)) :
      Costs heap policy start
        (.error (.inconsistent (.pointerCycle start (heap.trail start hops))))
        ⟨0, hops, hops, hops - 1⟩
  | dangling {hops : Nat} (hpos : 0 < hops) (hends : heap.Ends start (.deadEnd hops)) :
      Costs heap policy start
        (.error (.inconsistent (.danglingPointer start (heap.trail start hops))))
        ⟨0, hops + 1, hops, hops - 1⟩
  | missing {hops : Nat} (hpolicy : policy = .fail) (hmoves : heap.Moves start (hops + 1))
      (hdistinct : heap.Distinct start (hops + 1))
      (hgap : heap.Gap (heap.trail start hops) (heap.trail start (hops + 1)))
      (hnone : ∀ i < hops, ¬ heap.Gap (heap.trail start i) (heap.trail start (i + 1))) :
      Costs heap policy start
        (.error (.inconsistent
          (.missingEdge (heap.trail start hops) (heap.trail start (hops + 1)))))
        ⟨0, hops + 1, hops + 1, hops⟩

/-- A path whose start is not left costs a look-up. -/
theorem build_asked_of_stays (hserves : host.Serves heap ready)
    (hready : ready .outside recorded.state) {outcome : PathOutcome}
    (houtcome : heap.pointer start = none ∧ outcome = .noRoot ∨
      heap.pointer start = some start ∧ outcome = .isRoot) :
    ∃ later, build host.recorded policy start recorded = (.ok outcome, later) ∧
      Asked recorded later [.lookup start] := by
  obtain ⟨later, hlookup, -, hasked⟩ := hserves.lookup_asked start hready
  refine ⟨later, ?_, hasked⟩
  rw [build, hlookup]
  rcases houtcome with ⟨hnone, rfl⟩ | ⟨hself, rfl⟩
  · rw [hnone]
  · rw [hself]
    simp only [if_true]

/-- Before its end a trail is left from instance to instance, so there a path depends only on how
the walk is concluded. -/
theorem build_asked_of_lt (hserves : host.Serves heap ready)
    (hready : ready .outside recorded.state) {ending : Ending} (hends : heap.Ends start ending)
    {hops : Nat} (hlt : hops < ending.hops) (hpasses : ∀ i < hops, heap.Passes policy start i)
    {result : Except Failure PathOutcome} {last : List HostCall}
    (hlast : Concludes host heap ready policy start hops result last) :
    ∃ later, build host.recorded policy start recorded = (result, later) ∧
      Asked recorded later (heap.pathCalls start hops last) := by
  apply build_asked hserves hready (hends.moves 0 (by omega)) hpasses (hends.distinct.mono hlt)
  · intro i hi
    exact (hends.moves i (by omega)).pointer_trail
  · exact hlast

/-- The calls of a path make the work that its result costs. -/
def Accounts (host : Host σ) (heap : HeapView) (policy : MissingEdgePolicy) (start : InstanceId)
    (recorded : Recorded σ) : Prop :=
  ∃ result later calls, build host.recorded policy start recorded = (result, later) ∧
    Asked recorded later calls ∧ Costs heap policy start result (workOf calls)

theorem Accounts.of_asked {result : Except Failure PathOutcome} {calls : List HostCall}
    {work : Work}
    (hasked : ∃ later, build host.recorded policy start recorded = (result, later) ∧
      Asked recorded later calls)
    (hwork : workOf calls = work) (hcosts : Costs heap policy start result work) :
    Accounts host heap policy start recorded := by
  obtain ⟨later, hbuild, hcalls⟩ := hasked
  rw [← hwork] at hcosts
  exact ⟨result, later, calls, hbuild, hcalls, hcosts⟩

/-- Where the policy lets all hops of a trail pass, its end decides what the path costs. -/
theorem accounts_of_passes (hserves : host.Serves heap ready)
    (hready : ready .outside recorded.state) {ending : Ending} (hends : heap.Ends start ending)
    (hpasses : ∀ i < ending.hops, heap.Passes policy start i) :
    Accounts host heap policy start recorded := by
  match ending, hends with
  | .root 0, hends =>
      have hcosts : Costs heap policy start (.ok .isRoot) ⟨0, 1, 0, 0⟩ := .isRoot hends
      exact .of_asked (build_asked_of_stays hserves hready (.inr ⟨hends.2, rfl⟩)) rfl hcosts
  | .deadEnd 0, hends =>
      have hcosts : Costs heap policy start (.ok .noRoot) ⟨0, 1, 0, 0⟩ := .noRoot hends
      exact .of_asked (build_asked_of_stays hserves hready (.inl ⟨hends.2, rfl⟩)) rfl hcosts
  | .loop 0, hends =>
      -- Nothing stands before the start that it could repeat.
      obtain ⟨-, -, i, hi, -⟩ := hends
      exact absurd hi (Nat.not_lt_zero i)
  | .root (hops + 1), hends =>
      have hleaves : heap.Leaves start := hends.1 0 hops.succ_pos
      have hpassing : ∀ i < hops + 1, heap.Passes policy start i := hpasses
      have hasked := build_asked hserves hready hleaves hpassing hends.rests_of_root.distinct
        (fun _ hi => hends.pointer_of_root hi) (concludes_root hserves hends.2)
      apply Accounts.of_asked hasked (workOf_pathCalls heap start (hops + 1) [])
      exact .chain hops.succ_pos hends (records_ofHops heap start (hops + 1)).length_eq
  | .deadEnd (hops + 1), hends =>
      have hlast := concludes_deadEnd hserves (hpasses hops hops.lt_succ_self)
        hends.rests_of_deadEnd.distinct hends.2
      have hasked := build_asked_of_lt hserves hready hends hops.lt_succ_self
        (fun i hi => hpasses i (Nat.lt_succ_of_lt hi)) hlast
      apply Accounts.of_asked hasked (workOf_pathCalls heap start hops _)
      exact .dangling hops.succ_pos hends
  | .loop (hops + 1), hends =>
      have hlast := concludes_loop hserves (hpasses hops hops.lt_succ_self)
        (hends.1 hops hops.lt_succ_self) hends.2.2
      have hasked := build_asked_of_lt hserves hready hends hops.lt_succ_self
        (fun i hi => hpasses i (Nat.lt_succ_of_lt hi)) hlast
      apply Accounts.of_asked hasked (workOf_pathCalls heap start hops _)
      exact .cycle hends

/-- The first hop that the policy does not let pass decides what the path costs, whatever the end
of the trail. -/
theorem accounts_of_gap (hserves : host.Serves heap ready)
    (hready : ready .outside recorded.state) {ending : Ending} (hends : heap.Ends start ending)
    {hops : Nat} (hlt : hops < ending.hops) (hfails : ¬ heap.Passes policy start hops)
    (hpasses : ∀ i < hops, heap.Passes policy start i) :
    Accounts host heap policy start recorded := by
  have hleaves : heap.Leaves (heap.trail start hops) := hends.moves hops hlt
  obtain ⟨hskip, hnone⟩ := not_or.mp hfails
  have hgap : heap.Gap (heap.trail start hops) (heap.trail start (hops + 1)) :=
    ⟨hleaves.pointer_trail, not_not.mp hnone⟩
  have hearlier : ∀ i < hops,
      ¬ heap.Gap (heap.trail start i) (heap.trail start (i + 1)) := by
    intro i hi hgap
    exact (hpasses i hi).resolve_left hskip hgap.2
  have hpolicy : policy = .fail := by
    cases policy with
    | skip => exact absurd rfl hskip
    | fail => rfl
  have hasked :=
    build_asked_of_lt hserves hready hends hlt hpasses (concludes_gap hserves hleaves hfails)
  apply Accounts.of_asked hasked (workOf_pathCalls heap start hops _)
  exact .missing hpolicy (hends.moves.mono hlt) (hends.distinct.mono hlt) hgap hearlier

theorem build_accounts (hserves : host.Serves heap ready)
    (hready : ready .outside recorded.state) (policy : MissingEdgePolicy) (start : InstanceId) :
    Accounts host heap policy start recorded := by
  classical
  obtain ⟨ending, hends⟩ := exists_ends heap start
  by_cases hfails : ∃ hops, hops < ending.hops ∧ ¬ heap.Passes policy start hops
  · -- What matters is the first of the hops that do not pass.
    obtain ⟨hlt, hfirst⟩ := Nat.find_spec hfails
    apply accounts_of_gap hserves hready hends hlt hfirst
    intro i hi
    by_contra hfailing
    exact Nat.find_min hfails hi ⟨hi.trans hlt, hfailing⟩
  · apply accounts_of_passes hserves hready hends
    intro i hi
    by_contra hfailing
    exact hfails ⟨i, hi, hfailing⟩

end Path

/-! ## Bounds -/

namespace HeapView

variable {heap : HeapView} {instances : List InstanceId} {start : InstanceId}

/-- Pointers join instances of the list only. -/
def Within (heap : HeapView) (instances : List InstanceId) : Prop :=
  ∀ id next, heap.pointer id = some next → id ∈ instances ∧ next ∈ instances

/-- Instances of a trail that are pairwise different are no more than there are instances. -/
theorem Distinct.le_length {count : Nat} (hdistinct : heap.Distinct start count)
    (hmem : ∀ i < count, heap.trail start i ∈ instances) : count ≤ instances.length := by
  have hnodup : ((List.range count).map (heap.trail start)).Nodup := by
    apply List.Nodup.map_on _ List.nodup_range
    intro i hi j hj heq
    rw [List.mem_range] at hi hj
    rcases Nat.lt_trichotomy i j with hlt | hsame | hlt
    · exact absurd heq (hdistinct i j hlt hj)
    · exact hsame
    · exact absurd heq.symm (hdistinct j i hlt hi)
  have hsubset : (List.range count).map (heap.trail start) ⊆ instances := by
    intro id hid
    obtain ⟨i, hi, rfl⟩ := List.mem_map.mp hid
    exact hmem i (List.mem_range.mp hi)
  have hlength := hnodup.length_le_of_subset hsubset
  rwa [List.length_map, List.length_range] at hlength

theorem Leaves.mem (hleaves : heap.Leaves start) (hwithin : heap.Within instances) :
    start ∈ instances := by
  obtain ⟨next, hpointer, -⟩ := hleaves
  exact (hwithin start next hpointer).1

/-- If the start is left, the whole trail up to the next instance is in the heap. -/
theorem Moves.mem {hops : Nat} (hmoves : heap.Moves start hops) (hwithin : heap.Within instances)
    (hpos : 0 < hops) : ∀ i < hops + 1, heap.trail start i ∈ instances := by
  intro i hi
  cases i with
  | zero => exact (hmoves 0 hpos).mem hwithin
  | succ i =>
      have hleaves := hmoves i (by omega)
      exact (hwithin _ _ hleaves.pointer_trail).2

end HeapView

/-- A path looks up each instance at most once, and none that is not there but its start. -/
theorem Path.Costs.lookups_le {heap : HeapView} {policy : MissingEdgePolicy} {start : InstanceId}
    {result : Except Failure PathOutcome} {work : Work} {instances : List InstanceId}
    (hcosts : Costs heap policy start result work) (hwithin : heap.Within instances) :
    work.lookups ≤ max 1 instances.length := by
  cases hcosts with
  | noRoot => exact Nat.le_max_left ..
  | isRoot => exact Nat.le_max_left ..
  | chain hpos hends =>
      have hle := hends.rests_of_root.distinct.le_length (hends.1.mem hwithin hpos)
      exact hle.trans (Nat.le_max_right ..)
  | cycle hends =>
      have hle := hends.2.1.le_length fun i hi => (hends.1 i hi).mem hwithin
      exact hle.trans (Nat.le_max_right ..)
  | dangling hpos hends =>
      have hle := hends.rests_of_deadEnd.distinct.le_length (hends.1.mem hwithin hpos)
      exact hle.trans (Nat.le_max_right ..)
  | missing _ hmoves hdistinct =>
      have hle := hdistinct.le_length fun i hi => (hmoves i hi).mem hwithin
      exact hle.trans (Nat.le_max_right ..)

namespace GraphHeap

variable {G : Type} [Multigraph G] [LawfulMultigraph G]

/-- Pointers of a heap join instances of the heap. -/
theorem view_within {operations : List HeapOperation} (hroom : HasRoom G operations) :
    (build operations : GraphHeap G).view.Within
      (build operations : GraphHeap G).instances.toList := by
  intro id next hpointer
  have hreflects := reflects_build hroom
  have hlast : (valuesAt (operations.filterMap HeapOperation.pointer?) id).getLast? = some next :=
    (hreflects.pointer_eq id).symm.trans hpointer
  have hset := mem_valuesAt_iff.mp (List.mem_of_getLast? hlast)
  obtain ⟨operation, hoperation, hsets⟩ := List.mem_filterMap.mp hset
  rw [hreflects.instances_eq, List.mem_eraseDups, List.mem_eraseDups]
  constructor
  · exact List.mem_flatMap.mpr ⟨operation, hoperation, HeapOperation.id_mem_mentions hsets⟩
  · exact List.mem_flatMap.mpr ⟨operation, hoperation, HeapOperation.next_mem_mentions hsets⟩

end GraphHeap

/-! ## Aggregations -/

/-- Visits cost a step each, and a look-up more than there are hops to the rest. -/
theorem Aggregation.workOf_visitsCalls {heap : HeapView} {limit : UInt64}
    {instances : List InstanceId} {rests : List Nat}
    (hwithin : RestWithin heap limit instances rests) :
    workOf (visitsCalls heap instances rests) =
      ⟨0, (rests.map (· + 1)).sum, 0, instances.length⟩ := by
  induction hwithin with
  | nil => rfl
  | @cons id rest instances rests _ _ ih =>
      have hfirst : visitsCalls heap (id :: instances) (rest :: rests) =
          heap.visitCalls id rest ++ visitsCalls heap instances rests := rfl
      have hvisit : workOf (heap.visitCalls id rest) = ⟨0, rest + 1, 0, 1⟩ := by
        rw [HeapView.visitCalls, workOf_append, HeapView.workOf_lookups]
        rfl
      rw [hfirst, workOf_append, ih, hvisit]
      simp only [Work.mk_add_mk, List.map_cons, List.sum_cons, List.length_cons, Nat.add_comm 1]

/-! ## Analyses -/

namespace Analyzer

variable {σ : Type} {host : Host σ} {state : σ}

theorem prepare_recorded {result : Except Failure Unit} {prepared : σ}
    (hprepare : host.prepare state = (result, prepared)) :
    host.recorded.prepare (.start state) =
      (result, host.note (.start state) (.prepare result) prepared) := by
  simp only [Host.recorded, Recorded.start, hprepare]

theorem buildPath_calls_of_unprepared (analyzer : Analyzer) (start : InstanceId)
    {failure : Failure} {prepared : σ}
    (hprepare : host.prepare state = (.error failure, prepared)) :
    (analyzer.buildPath host start state).1 = .error failure ∧
      Analysis.calls (fun host => analyzer.buildPath host start) host state =
        [.prepare (.error failure)] := by
  constructor
  · rw [buildPath, hprepare]
  · rw [Analysis.calls, buildPath, prepare_recorded hprepare]
    rfl

/-- What comes after the preparation is told by the cost of the path. -/
theorem buildPath_costs {heap : HeapView} {ready : Phase → σ → Prop}
    (hserves : host.Serves heap ready) (analyzer : Analyzer) (start : InstanceId) {prepared : σ}
    (hprepare : host.prepare state = (.ok (), prepared)) (hready : ready .outside prepared) :
    ∃ calls, Analysis.calls (fun host => analyzer.buildPath host start) host state =
        .prepare (.ok ()) :: calls ∧
      Path.Costs heap analyzer.settings.missingEdge start
        (analyzer.buildPath host start state).1 (workOf calls) := by
  obtain ⟨hresult, -⟩ :=
    Analysis.Uniform.recorded (analyzer.buildPath_uniform start) host state
  have hnoted : ready .outside (host.note (.start state) (.prepare (.ok ())) prepared).state :=
    hready
  obtain ⟨result, later, calls, hbuild, hasked, hcosts⟩ :=
    Path.build_accounts hserves hnoted analyzer.settings.missingEdge start
  have hrun : analyzer.buildPath host.recorded start (.start state) = (result, later) := by
    rw [buildPath, prepare_recorded hprepare]
    exact hbuild
  rw [← hresult, Analysis.calls, hrun]
  exact ⟨calls, hasked, hcosts⟩

/-- What analyses of a heap cost on a host that serves it, if its graph has room for it. A path
whose preparation fails has that failure, and nothing else is asked for. Otherwise the host is
prepared once, before anything else; then a path makes at most as many look-ups as there are
instances, or one, and costs what its end says. Groups cost a step for every instance and a look-up
more than there are hops to where its trail rests, and no scan. -/
theorem work_of_trails {G : Type} [Multigraph G] [LawfulMultigraph G]
    (operations : List HeapOperation) (hroom : GraphHeap.HasRoom G operations)
    {ready : Phase → σ → Prop}
    (hserves : host.Serves (GraphHeap.build operations : GraphHeap G).view ready)
    (hprepared : ∀ prepared, host.prepare state = (.ok (), prepared) → ready .outside prepared)
    (analyzer : Analyzer) :
    let heap : GraphHeap G := .build operations
    (∀ start failure, (host.prepare state).1 = .error failure →
      (analyzer.buildPath host start state).1 = .error failure ∧
        Analysis.calls (fun host => analyzer.buildPath host start) host state =
          [.prepare (.error failure)]) ∧
    (∀ start, (host.prepare state).1 = .ok () →
      ∃ calls, Analysis.calls (fun host => analyzer.buildPath host start) host state =
          .prepare (.ok ()) :: calls ∧
        (workOf calls).lookups ≤ max 1 heap.instanceCount ∧
        Path.Costs heap.view analyzer.settings.missingEdge start
          (analyzer.buildPath host start state).1 (workOf calls)) ∧
    ∀ instances expected groups,
      (analyzer.aggregate host instances expected state).1 = .ok groups →
      ∃ rests calls,
        Aggregation.RestWithin heap.view analyzer.settings.maxRootDistance instances rests ∧
        Analysis.calls (fun host => analyzer.aggregate host instances expected) host state =
          .prepare (.ok ()) :: calls ∧
        workOf calls = ⟨0, (rests.map (· + 1)).sum, 0, instances.length⟩ := by
  intro heap
  refine ⟨?_, ?_, ?_⟩
  · intro start failure hprepare
    exact analyzer.buildPath_calls_of_unprepared start (Prod.ext hprepare rfl)
  · intro start hprepare
    have hready : ready .outside (host.prepare state).2 := hprepared _ (Prod.ext hprepare rfl)
    obtain ⟨calls, hcalls, hcosts⟩ :=
      analyzer.buildPath_costs hserves start (Prod.ext hprepare rfl) hready
    refine ⟨calls, hcalls, ?_, hcosts⟩
    have hlookups := hcosts.lookups_le (GraphHeap.view_within hroom)
    rwa [GraphHeap.length_instances] at hlookups
  · intro instances expected groups hresult
    obtain ⟨rests, length, hwithin, hcalls⟩ :=
      analyzer.aggregate_ok_calls hserves.toAnswers hresult
    refine ⟨rests, _, hwithin, hcalls, ?_⟩
    rw [workOf_cons, workOf_append, Aggregation.workOf_visitsCalls hwithin]
    simp [HostCall.work]

/-- With two hops from 1 to the root 3, of which the second is skipped, the path of 1 costs three
look-ups, and grouping 1 and 3 costs four. A host that cannot be prepared is not asked again. -/
theorem work_of_trails_sample :
    let operations : List HeapOperation :=
      [.setPointer ⟨1⟩ ⟨2⟩, .setPointer ⟨2⟩ ⟨3⟩, .markRoot ⟨3⟩, .addField ⟨1⟩ "next" ⟨2⟩]
    let heap : MemoryHeap := .build operations
    let host := Monitor.host heap.view .plain ⟨true, none, none⟩
    let failing := Monitor.host heap.view ⟨some .interrupted, none⟩ ⟨true, none, none⟩
    (∃ calls, Analysis.calls (fun host => default.buildPath host ⟨1⟩) host .fresh =
        .prepare (.ok ()) :: calls ∧ workOf calls = ⟨0, 3, 2, 2⟩) ∧
      (∃ calls, Analysis.calls (fun host => default.aggregate host [⟨1⟩, ⟨3⟩] 2) host .fresh =
        .prepare (.ok ()) :: calls ∧ workOf calls = ⟨0, 4, 0, 2⟩) ∧
      Analysis.calls (fun host => default.buildPath host ⟨1⟩) failing .fresh =
        [.prepare (.error .interrupted)] := by
  intro operations heap host failing
  have hserves : host.Serves heap.view (Monitor.Ready ⟨true, none, none⟩) :=
    Monitor.host_serves heap.view rfl rfl rfl
  have hfailing : failing.Serves heap.view (Monitor.Ready ⟨true, none, none⟩) :=
    Monitor.host_serves heap.view rfl rfl rfl
  have hready : Monitor.Ready ⟨true, none, none⟩ .outside .fresh := Monitor.fresh_ready _
  have hprepared : ∀ prepared, host.prepare .fresh = (.ok (), prepared) →
      Monitor.Ready ⟨true, none, none⟩ .outside prepared := by
    intro prepared hprepare
    obtain ⟨-, rfl⟩ := Prod.mk.inj hprepare
    exact hready
  have hrefused : ∀ prepared, failing.prepare .fresh = (.ok (), prepared) →
      Monitor.Ready ⟨true, none, none⟩ .outside prepared := fun _ hprepare => nomatch hprepare
  obtain ⟨-, hpaths, hgroups⟩ :=
    work_of_trails (G := Adjacency) operations (.of_unlimited rfl) hserves hprepared default
  obtain ⟨hunprepared, -, -⟩ :=
    work_of_trails (G := Adjacency) operations (.of_unlimited rfl) hfailing hrefused default
  refine ⟨?_, ?_, ?_⟩
  · obtain ⟨calls, hcalls, -, hcosts⟩ := hpaths ⟨1⟩ rfl
    have hresult : (default.buildPath host ⟨1⟩ .fresh).1 =
        .ok (.chain ⟨⟨1⟩, ⟨3⟩, [⟨⟨1⟩, ⟨2⟩, .field "next"⟩], [⟨⟨2⟩, ⟨3⟩⟩]⟩) := by
      subst host heap operations
      cbv
    rw [hresult] at hcosts
    refine ⟨calls, hcalls, ?_⟩
    generalize workOf calls = work at hcosts ⊢
    cases hcosts with
    | chain _ _ hlength =>
        cases hlength
        rfl
  · obtain ⟨groups, hresult⟩ : ∃ groups,
        (default.aggregate host [⟨1⟩, ⟨3⟩] 2 .fresh).1 = .ok groups := by
      subst host heap operations
      exact ⟨_, by cbv⟩
    obtain ⟨rests, calls, hwithin, hcalls, hwork⟩ := hgroups [⟨1⟩, ⟨3⟩] 2 groups hresult
    refine ⟨calls, hcalls, hwork.trans ?_⟩
    have hroot : heap.view.pointer ⟨3⟩ = some ⟨3⟩ := by
      subst heap operations
      cbv
    have hsecond : heap.view.pointer ⟨2⟩ = some ⟨3⟩ := by
      subst heap operations
      cbv
    have hfirst : heap.view.pointer ⟨1⟩ = some ⟨2⟩ := by
      subst heap operations
      cbv
    have hthree : heap.view.Rests ⟨3⟩ 0 :=
      ⟨HeapView.moves_zero, HeapView.not_leaves_of_self hroot⟩
    have hone : heap.view.Rests ⟨1⟩ 2 :=
      (hthree.before hsecond (by decide)).before hfirst (by decide)
    obtain _ | ⟨⟨hrests, -⟩, _ | ⟨⟨hrests', -⟩, _ | _⟩⟩ := hwithin
    obtain rfl := hrests.unique hone
    obtain rfl := hrests'.unique hthree
    rfl
  · exact (hunprepared ⟨1⟩ .interrupted rfl).2

end Analyzer

end Retention
