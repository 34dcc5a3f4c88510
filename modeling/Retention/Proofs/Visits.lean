import Retention.Proofs.Calls
import Retention.Proofs.Faithfulness

/-!
# The calls of a successful aggregation

Whatever a host that answers from a heap may do in between, an aggregation that comes to groups has
followed every instance to where its trail rests and reported a step for it. So its calls can be
told from where the trails of its instances rest, in either form.
-/

namespace Retention

variable {σ : Type} {host : Host σ} {heap : HeapView} {recorded : Recorded σ} {limit : UInt64}
  {budget : Nat}

namespace HeapView

/-- The calls of a visit to an instance whose trail rests after so many hops. -/
def visitCalls (heap : HeapView) (id : InstanceId) (rest : Nat) : List HostCall :=
  heap.lookups id (rest + 1) ++ [.step (.ok ())]

end HeapView

open HeapView

/-! ## Visits -/

/-- A key that comes out was looked up hop by hop. -/
theorem Resolution.settle_ok_asked (hanswers : host.Answers heap) {start current : InstanceId}
    {key : RootKey} {later : Recorded σ}
    (hsettle : settle host.recorded start limit budget current recorded = (.ok key, later)) :
    ∃ rest ≤ budget, heap.Rests current rest ∧
      Asked recorded later (heap.lookups current (rest + 1)) := by
  fun_induction settle host.recorded start limit budget current recorded with
  | case1 budget current recorded looked hlookup =>
      have hnone := hanswers.recorded.pointer_eq hlookup
      cases hsettle
      refine ⟨0, Nat.zero_le _, ⟨moves_zero, not_leaves_of_none hnone⟩, ?_⟩
      exact .lookup hlookup
  | case2 budget current recorded looked hlookup =>
      have hself := hanswers.recorded.pointer_eq hlookup
      cases hsettle
      refine ⟨0, Nat.zero_le _, ⟨moves_zero, not_leaves_of_self hself⟩, ?_⟩
      exact .lookup hlookup
  | case3 => cases hsettle
  | case4 => cases hsettle
  | case5 current recorded next looked hlookup hne budget _ ih =>
      have hpointer := hanswers.recorded.pointer_eq hlookup
      obtain ⟨rest, hle, hrests, hasked⟩ := ih hsettle
      refine ⟨rest + 1, Nat.succ_le_succ hle, hrests.before hpointer hne, ?_⟩
      rw [lookups_succ hpointer]
      exact (Asked.lookup hlookup).trans hasked

namespace Aggregation

/-- A visit that comes to a key has resolved the instance and had its step accepted. -/
theorem visit_ok_steps {state later : σ} {id : InstanceId} {key : RootKey}
    (hvisit : visit host limit id state = (.ok key, later)) :
    ∃ resolved, Resolution.resolve host limit id state = (.ok key, resolved) ∧
      host.step resolved = (.ok (), later) := by
  unfold visit at hvisit
  split at hvisit
  next => cases hvisit
  next =>
    split at hvisit
    next => cases hvisit
    next found resolved hresolve =>
      split at hvisit
      next => cases hvisit
      next stepped hstep =>
        cases hvisit
        exact ⟨resolved, hresolve, hstep⟩

theorem visit_ok_asked (hanswers : host.Answers heap) {id : InstanceId} {key : RootKey}
    {later : Recorded σ} (hvisit : visit host.recorded limit id recorded = (.ok key, later)) :
    ∃ rest ≤ limit.toNat, heap.Rests id rest ∧
      Asked recorded later (heap.visitCalls id rest) := by
  obtain ⟨resolved, hresolve, hstep⟩ := visit_ok_steps hvisit
  obtain ⟨rest, hle, hrests, hlookups⟩ := Resolution.settle_ok_asked hanswers hresolve
  exact ⟨rest, hle, hrests, hlookups.trans (.step hstep)⟩

/-- The trails of instances rest within the budget, each after so many hops. -/
def RestWithin (heap : HeapView) (limit : UInt64) : List InstanceId → List Nat → Prop :=
  List.Forall₂ fun id rest => heap.Rests id rest ∧ rest ≤ limit.toNat

/-- The calls of visits to instances whose trails rest after so many hops. -/
def visitsCalls (heap : HeapView) (instances : List InstanceId) (rests : List Nat) :
    List HostCall :=
  (List.zipWith heap.visitCalls instances rests).flatten

/-- All visits to the instances succeed. -/
def Succeed (host : Host σ) (limit : UInt64) (instances : List InstanceId) (state : σ) : Prop :=
  ∀ visit ∈ (visitAll host limit instances state).1, ∃ key, visit.2 = .ok key

/-- Visits that all succeed follow every instance to its rest. -/
theorem visitAll_asked (hanswers : host.Answers heap) {instances : List InstanceId}
    (hvisits : Succeed host.recorded limit instances recorded) :
    ∃ rests, RestWithin heap limit instances rests ∧
      Asked recorded (visitAll host.recorded limit instances recorded).2
        (visitsCalls heap instances rests) := by
  induction instances generalizing recorded with
  | nil => exact ⟨[], .nil, .refl recorded⟩
  | cons id instances ih =>
      unfold Succeed at hvisits
      rw [visitAll] at hvisits ⊢
      obtain ⟨key, hkey⟩ := hvisits _ List.mem_cons_self
      obtain ⟨rest, hle, hrests, hfirst⟩ := visit_ok_asked hanswers (Prod.ext hkey rfl)
      obtain ⟨rests, hwithin, hlater⟩ :=
        ih fun visit hvisit => hvisits visit (List.mem_cons_of_mem _ hvisit)
      exact ⟨rest :: rests, .cons ⟨hrests, hle⟩ hwithin, hfirst.trans hlater⟩

/-! ## Aggregations -/

/-- Groups come out of the sequential form after visits that all succeed, and no other calls. -/
theorem gather_ok_visits {instances : List InstanceId} {groups found : RootGroups} {state : σ}
    (hgather : (gather host limit instances groups state).1 = .ok found) :
    Succeed host limit instances state ∧
      (gather host limit instances groups state).2 =
        (visitAll host limit instances state).2 := by
  constructor
  · rw [gather_fst, concludeGroups_eq_ok_iff] at hgather
    exact all_ok_of_tally hgather.1
  · induction instances generalizing groups state with
    | nil => exact conclude_state _ state
    | cons id instances ih =>
        unfold gather at hgather ⊢
        rw [visitAll]
        cases hvisit : visit host limit id state with
        | mk key later =>
            rw [hvisit] at hgather
            cases key with
            | error failure => cases hgather
            | ok key => exact ih hgather

theorem gatherAll_ok_visits {instances : List InstanceId} {groups found : RootGroups} {state : σ}
    (hgather : (gatherAll host limit instances (.ok groups) state).1 = .ok found) :
    Succeed host limit instances state ∧
      (gatherAll host limit instances (.ok groups) state).2 =
        (visitAll host limit instances state).2 := by
  rw [gatherAll_eq] at hgather ⊢
  rw [conclude_eq_ok_iff] at hgather
  exact ⟨all_ok_of_tally hgather.1, conclude_state _ _⟩

/-- A run of visits that all succeed has a setup before them and a finish after them. -/
theorem duringRun_visits_asked (hanswers : host.Answers heap) {instances : List InstanceId}
    {groups : RootGroups} {length : Option UInt64}
    {body : Recorded σ → Except Failure RootGroups × Recorded σ}
    (hbody : ∀ opened, (body opened).1 = .ok groups →
      Succeed host.recorded limit instances opened ∧
        (body opened).2 = (visitAll host.recorded limit instances opened).2)
    (hrun : (host.recorded.duringRun length body recorded).1 = .ok groups) :
    ∃ rests, RestWithin heap limit instances rests ∧
      Asked recorded (host.recorded.duringRun length body recorded).2
        (.setup length (.ok ()) :: (visitsCalls heap instances rests ++ [.finish])) := by
  obtain ⟨opened, hsetup, hgroups, hfinish⟩ := Host.duringRun_ok hrun
  obtain ⟨hsucceed, hvisits⟩ := hbody opened hgroups
  obtain ⟨rests, hwithin, hasked⟩ := visitAll_asked hanswers hsucceed
  rw [hfinish, hvisits]
  exact ⟨rests, hwithin, (Asked.setup hsetup).trans (hasked.trans (.finish host _))⟩

end Aggregation

namespace Analyzer

open Aggregation

/-- The calls of an aggregation that comes to groups, in either form: a preparation, and then a run
of visits to all its instances. -/
theorem aggregate_ok_calls (hanswers : host.Answers heap) (analyzer : Analyzer)
    {instances : List InstanceId} {expected : UInt64} {groups : RootGroups} {state : σ}
    (hresult : (analyzer.aggregate host instances expected state).1 = .ok groups) :
    ∃ rests length, RestWithin heap analyzer.settings.maxRootDistance instances rests ∧
      Analysis.calls (fun host => analyzer.aggregate host instances expected) host state =
        .prepare (.ok ()) :: .setup (some length) (.ok ()) ::
          (visitsCalls heap instances rests ++ [.finish]) := by
  obtain ⟨hrecorded, -⟩ :=
    Analysis.Uniform.recorded (analyzer.aggregate_uniform instances expected) host state
  rw [hresult] at hrecorded
  rcases analyzer.aggregate_cases host.recorded (.start state) instances expected with
    ⟨_, _, _, heq⟩ | ⟨prepared, hprepare, ⟨_, _, _, heq⟩ | ⟨_, _, heq⟩ | ⟨_, heq⟩⟩
  · rw [heq] at hrecorded
    cases hrecorded
  · rw [heq] at hrecorded
    cases hrecorded
  · rw [heq] at hrecorded
    obtain ⟨rests, hwithin, hasked⟩ :=
      duringRun_visits_asked hanswers (fun _ => gatherAll_ok_visits) hrecorded
    refine ⟨rests, UInt64.ofNat instances.length, hwithin, ?_⟩
    rw [Analysis.calls, heq]
    exact (Asked.prepare hprepare).trans hasked
  · rw [heq] at hrecorded
    obtain ⟨rests, hwithin, hasked⟩ :=
      duringRun_visits_asked hanswers (fun _ => gather_ok_visits) hrecorded
    refine ⟨rests, expected, hwithin, ?_⟩
    rw [Analysis.calls, heq]
    exact (Asked.prepare hprepare).trans hasked

end Analyzer

end Retention
