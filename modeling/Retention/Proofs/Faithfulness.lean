import Retention.Proofs.Exhaustive
import Retention.Proofs.Lockstep
import Retention.Proofs.Partition

/-!
# Faithful results

A host that answers from a heap may cancel an analysis or refuse its progress at any call. That can
keep the analysis from its result but not lead it to another one: what it comes to with success, it
comes to on every host that serves the heap.
-/

namespace Retention

variable {σ τ α : Type} {host : Host σ} {other : Host τ} {heap : HeapView}
  {ready : Phase → τ → Prop} {state : σ} {begun : τ} {phase : Phase}

namespace Host

theorem Answers.pointer_eq (hanswers : host.Answers heap) {id : InstanceId}
    {answer : Option InstanceId} {later : σ} (hlookup : host.pointer id state = (answer, later)) :
    heap.pointer id = answer := by
  rw [← hanswers.pointer_fst id state, hlookup]

theorem Answers.references_eq (hanswers : host.Answers heap) {id : InstanceId}
    {references : List Reference} {later : σ}
    (hscan : host.references id state = (references, later)) :
    heap.references id = references := by
  rw [← hanswers.references_fst id state, hscan]

/-- The host with a token that is never cancelled and a sink that takes no notice. -/
def undisturbed (host : Host σ) : Host σ :=
  { host with
    cancelled := fun _ => false
    setup := fun _ state => (.ok (), state)
    step := fun state => (.ok (), state)
    finish := fun state => state }

theorem undisturbed_serves (hanswers : host.Answers heap) :
    host.undisturbed.Serves heap fun _ _ => True where
  pointer_fst := hanswers.pointer_fst
  references_fst := hanswers.references_fst
  not_cancelled _ _ _ := rfl
  pointer_ready _ _ _ _ := trivial
  references_ready _ _ _ _ := trivial
  setup_accepted state _ _ := ⟨state, rfl, trivial⟩
  step_accepted state _ := ⟨state, rfl, trivial⟩
  finish_ready _ _ := trivial

/-- A run with a result had its setup accepted. -/
theorem duringRun_ok {length : Option UInt64} {body : σ → Except Failure α × σ} {value : α}
    (hrun : (host.duringRun length body state).1 = .ok value) :
    ∃ opened, host.setup length state = (.ok (), opened) ∧ (body opened).1 = .ok value ∧
      (host.duringRun length body state).2 = host.finish (body opened).2 := by
  unfold duringRun at hrun ⊢
  split at hrun
  next => cases hrun
  next opened hsetup => exact ⟨opened, hsetup, hrun, rfl⟩

end Host

/-! ## Keys -/

namespace Resolution

open HeapView

variable {start current : InstanceId} {limit : UInt64} {budget : Nat} {key : RootKey}

theorem settle_ok (hanswers : host.Answers heap) (hserves : other.Serves heap ready)
    (hready : ready phase begun)
    (hsettle : (settle host start limit budget current state).1 = .ok key) :
    ∃ later, settle other start limit budget current begun = (.ok key, later) ∧
      ready phase later := by
  fun_induction settle host start limit budget current state generalizing begun with
  | case1 budget current state later hlookup =>
      cases hsettle
      have hnone := hanswers.pointer_eq hlookup
      rw [← restKey_of_none hnone]
      exact settle_of_rest hserves hready (not_leaves_of_none hnone)
  | case2 budget current state later hlookup =>
      cases hsettle
      have hself := hanswers.pointer_eq hlookup
      rw [← restKey_of_self hself]
      exact settle_of_rest hserves hready (not_leaves_of_self hself)
  | case3 => cases hsettle
  | case4 => cases hsettle
  | case5 current state next later hlookup hne budget _ ih =>
      have hpointer := hanswers.pointer_eq hlookup
      obtain ⟨middle, hmiddle, hround⟩ :=
        settle_succ hserves start limit budget hready ⟨next, hpointer, hne⟩
      rw [hround, advance_of_pointer hpointer]
      exact ih hmiddle hsettle

/-- A key that comes out is the one that the heap resolves the instance to. -/
theorem resolve_ok (hanswers : host.Answers heap) {id : InstanceId}
    (hresolve : (resolve host limit id state).1 = .ok key) : heap.resolved limit id = .ok key := by
  obtain ⟨_, hquiet, _⟩ := @settle_ok σ Unit host (Host.quiet heap) heap (fun _ _ => True) state ()
    .outside id id limit limit.toNat key hanswers (Host.quiet_serves heap) trivial hresolve
  exact congrArg Prod.fst hquiet

end Resolution

/-! ## Groups -/

namespace Aggregation

variable {limit : UInt64} {instances : List InstanceId} {groups : RootGroups}

theorem visit_ok (hanswers : host.Answers heap) {id : InstanceId} {key : RootKey}
    (hvisit : (visit host limit id state).1 = .ok key) : heap.resolved limit id = .ok key := by
  unfold visit at hvisit
  split at hvisit
  next => cases hvisit
  next =>
    split at hvisit
    next => cases hvisit
    next found resolved hresolve =>
      split at hvisit
      next => cases hvisit
      next =>
        cases hvisit
        exact Resolution.resolve_ok hanswers (congrArg Prod.fst hresolve)

/-- Visits that all succeed come to what their instances resolve to. -/
theorem visitAll_ok (hanswers : host.Answers heap)
    (hok : ∀ visit ∈ (visitAll host limit instances state).1, ∃ key, visit.2 = .ok key) :
    (visitAll host limit instances state).1 =
      instances.map fun id => (id, heap.resolved limit id) := by
  induction instances generalizing state with
  | nil => rfl
  | cons id rest ih =>
      rw [visitAll] at hok ⊢
      obtain ⟨key, hkey⟩ := hok _ List.mem_cons_self
      have hhead : (visit host limit id state).1 = heap.resolved limit id :=
        hkey.trans (visit_ok hanswers hkey).symm
      have hrest := ih fun visit hvisit => hok visit (List.mem_cons_of_mem _ hvisit)
      rw [List.map_cons, ← hhead, ← hrest]

theorem all_ok_of_tally {visits : List (InstanceId × Except Failure RootKey)}
    {initial : RootGroups} (htally : tally (.ok initial) visits = .ok groups) :
    ∀ visit ∈ visits, ∃ key, visit.2 = .ok key := by
  rcases all_ok_or_failsFirst visits with hok | ⟨id, failure, hfails⟩
  · exact hok
  · rw [hfails.tally_eq] at htally
    cases htally

theorem tally_visitAll_ok (hanswers : host.Answers heap)
    (htally : tally (.ok .empty) (visitAll host limit instances state).1 = .ok groups) :
    tally (.ok .empty) (instances.map fun id => (id, heap.resolved limit id)) = .ok groups := by
  rw [← visitAll_ok hanswers (all_ok_of_tally htally)]
  exact htally

/-- Groups that come out are the tally of what the instances resolve to. -/
theorem sequential_ok (hanswers : host.Answers heap) {expected : UInt64}
    (hresult : (sequential host limit instances expected state).1 = .ok groups) :
    tally (.ok .empty) (instances.map fun id => (id, heap.resolved limit id)) = .ok groups := by
  obtain ⟨opened, _, hgather, _⟩ := Host.duringRun_ok hresult
  rw [gather_fst, concludeGroups_eq_ok_iff] at hgather
  exact tally_visitAll_ok hanswers hgather.1

theorem exhaustive_ok (hanswers : host.Answers heap)
    (hresult : (exhaustive host limit instances state).1 = .ok groups) :
    tally (.ok .empty) (instances.map fun id => (id, heap.resolved limit id)) = .ok groups := by
  obtain ⟨opened, _, hgather, _⟩ := Host.duringRun_ok hresult
  rw [gatherAll_eq, conclude_eq_ok_iff] at hgather
  exact tally_visitAll_ok hanswers hgather.1

theorem exhaustive_serves (hserves : other.Serves heap ready) (hready : ready .outside begun)
    (limit : UInt64) (instances : List InstanceId) :
    (exhaustive other limit instances begun).1 =
      tally (.ok .empty) (instances.map fun id => (id, heap.resolved limit id)) := by
  obtain ⟨opened, hsetup, hopened⟩ := hserves.setup_accepted begun _ hready
  obtain ⟨later, hvisits, hlater⟩ := visitAll_serves hserves hopened limit instances
  rw [exhaustive_eq hsetup, hvisits,
    conclude_of_not_cancelled _ (hserves.not_cancelled _ _ hlater)]

end Aggregation

/-! ## Paths -/

namespace Path

variable {policy : MissingEdgePolicy} {start : InstanceId} {outcome : PathOutcome}

theorem walk_ok (hanswers : host.Answers heap) (hserves : other.Serves heap ready)
    (hready : ready .inside begun) {visited : Visited} {hops : List Hop}
    {current next : InstanceId}
    (hwalk : (walk host policy start visited hops current next state).1 = .ok outcome) :
    ∃ later, walk other policy start visited hops current next begun = (.ok outcome, later) ∧
      ready .inside later := by
  fun_induction walk host policy start visited hops current next state generalizing begun with
  | case1 => cases hwalk
  | case2 visited hops next state _ =>
      cases hwalk
      refine ⟨begun, ?_, hready⟩
      rw [walk]
      simp only [hserves.not_cancelled _ _ hready, Bool.false_eq_true, if_false, if_true]
  | case3 => cases hwalk
  | case4 => cases hwalk
  | case5 => cases hwalk
  | case6 visited hops current next state _ hne references scanned hscan taken htaken hfresh after
      looked hlookup stepped _ ih =>
      obtain ⟨scanned', hscan', hscanned⟩ := hserves.scan current hready
      obtain ⟨looked', hlookup', hlooked⟩ := hserves.lookup next hscanned
      obtain ⟨stepped', hstep', hstepped⟩ := hserves.step_accepted looked' hlooked
      obtain ⟨later, hrun, hlater⟩ := ih hstepped hwalk
      refine ⟨later, ?_, hlater⟩
      rw [walk, ← hrun]
      simp only [hserves.not_cancelled _ _ hready, Bool.false_eq_true, if_false, hne, hscan',
        hanswers.references_eq hscan, htaken, hfresh, dite_true, hlookup',
        hanswers.pointer_eq hlookup, hstep']
  | case7 => cases hwalk

/-- An outcome that comes out is the one that the path comes to on any host that serves the
heap. -/
theorem build_ok (hanswers : host.Answers heap) (hserves : other.Serves heap ready)
    (hready : ready .outside begun) (hbuild : (build host policy start state).1 = .ok outcome) :
    ∃ later, build other policy start begun = (.ok outcome, later) ∧ ready .outside later := by
  obtain ⟨looked, hlookup, hlooked⟩ := hserves.lookup start hready
  unfold build at hbuild ⊢
  split at hbuild
  next found hfound =>
    cases hbuild
    rw [hlookup, hanswers.pointer_eq hfound]
    exact ⟨looked, rfl, hlooked⟩
  next next found hfound =>
    rw [hlookup, hanswers.pointer_eq hfound]
    by_cases hself : next = start
    · simp only [hself, if_true] at hbuild ⊢
      cases hbuild
      exact ⟨looked, rfl, hlooked⟩
    · simp only [hself, if_false] at hbuild ⊢
      obtain ⟨opened, _, hwalk, _⟩ := Host.duringRun_ok hbuild
      exact hserves.duringRun (fun _ hopened => walk_ok hanswers hserves hopened hwalk) hlooked

end Path

/-! ## Analyses -/

namespace Analyzer

theorem buildPath_undisturbed (hanswers : host.Answers heap) (analyzer : Analyzer)
    {id : InstanceId} {outcome : PathOutcome}
    (hbuild : (analyzer.buildPath host id state).1 = .ok outcome) :
    (analyzer.buildPath host.undisturbed id state).1 = .ok outcome := by
  rcases analyzer.buildPath_cases host state id with
    ⟨failure, prepared, _, heq⟩ | ⟨prepared, hprepare, heq⟩
  · rw [heq] at hbuild
    cases hbuild
  · rw [heq] at hbuild
    have hserved : ∃ later, Path.build host.undisturbed analyzer.settings.missingEdge id prepared =
        (.ok outcome, later) ∧ True :=
      Path.build_ok hanswers (Host.undisturbed_serves hanswers) trivial hbuild
    obtain ⟨later, hsame, _⟩ := hserved
    rw [buildPath, show host.undisturbed.prepare state = host.prepare state from rfl, hprepare]
    exact congrArg Prod.fst hsame

/-- Groups that come out are the tally of what the instances resolve to, in either form. -/
theorem aggregate_ok (hanswers : host.Answers heap) (analyzer : Analyzer)
    {instances : List InstanceId} {expected : UInt64} {groups : RootGroups}
    (hresult : (analyzer.aggregate host instances expected state).1 = .ok groups) :
    Aggregation.tally (.ok .empty)
      (instances.map fun id => (id, heap.resolved analyzer.settings.maxRootDistance id)) =
        .ok groups := by
  rcases analyzer.aggregate_cases host state instances expected with
    ⟨_, _, _, heq⟩ | ⟨_, _, ⟨_, _, _, heq⟩ | ⟨_, _, heq⟩ | ⟨_, heq⟩⟩
  · rw [heq] at hresult
    cases hresult
  · rw [heq] at hresult
    cases hresult
  · rw [heq] at hresult
    exact Aggregation.exhaustive_ok hanswers hresult
  · rw [heq] at hresult
    exact Aggregation.sequential_ok hanswers hresult

theorem aggregate_undisturbed (hanswers : host.Answers heap) (analyzer : Analyzer)
    {instances : List InstanceId} {expected : UInt64} {groups : RootGroups}
    (hresult : (analyzer.aggregate host instances expected state).1 = .ok groups) :
    (analyzer.aggregate host.undisturbed instances expected state).1 = .ok groups := by
  have htally := analyzer.aggregate_ok hanswers hresult
  have hserves := Host.undisturbed_serves hanswers
  rcases analyzer.aggregate_cases host state instances expected with
    ⟨_, _, _, heq⟩ | ⟨prepared, hprepare, ⟨_, _, _, heq⟩ | ⟨hparallel, hreserve, _⟩ |
      ⟨hparallel, _⟩⟩
  · rw [heq] at hresult
    cases hresult
  · rw [heq] at hresult
    cases hresult
  · rw [aggregate, show host.undisturbed.prepare state = host.prepare state from rfl, hprepare]
    simp only [hparallel, if_true, hreserve]
    rw [Aggregation.exhaustive_serves hserves trivial, htally]
  · rw [aggregate, show host.undisturbed.prepare state = host.prepare state from rfl, hprepare]
    simp only [hparallel, Bool.false_eq_true, if_false]
    rw [Aggregation.sequential_serves hserves trivial, htally]

end Analyzer

end Retention
