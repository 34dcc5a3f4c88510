import Retention.Proofs.Bracket
import Retention.Proofs.Reserving

/-!
# Refused room

Memory stands beside the host, and what was said of hosts in lockstep holds of both together: so an
aggregation that is recorded while it asks for room is the aggregation itself. Requests for room
leave no mark on the progress sink. A run that ends for want of memory is bracketed like any other,
and one for whose instances there was no room has not been set up. An aggregation that does not ask
is the case of a memory that has room for everything.
-/

namespace Retention

variable {σ τ : Type}

/-! ## Memories in lockstep -/

namespace Memory

/-- Two memories are in lockstep along a relation of states: asked the same in related states, they
answer the same and come to related states. -/
def Lockstep (memory : Memory σ) (other : Memory τ) (related : σ → τ → Prop) : Prop :=
  ∀ {s t} bookkeeping, related s t →
    Alike related (memory.grants bookkeeping s) (other.grants bookkeeping t)

/-- The memory of a recorded host, which keeps no log of what it grants. -/
def recorded (memory : Memory σ) : Memory (Recorded σ) where
  grants bookkeeping recorded :=
    let (granted, state) := memory.grants bookkeeping recorded.state
    (granted, { recorded with state := state })

@[simp] theorem recorded_ample : (ample : Memory σ).recorded = ample :=
  rfl

theorem recorded_lockstep (memory : Memory σ) :
    memory.recorded.Lockstep memory fun recorded state => recorded.state = state := by
  rintro recorded _ bookkeeping rfl
  exact ⟨rfl, rfl⟩

/-- What holds of a state still holds after any request for room. -/
structure Keeps (memory : Memory σ) (kept : σ → Prop) : Prop where
  grants : ∀ {s} bookkeeping, kept s → kept (memory.grants bookkeeping s).2

theorem Keeps.lockstep {memory : Memory σ} {kept : σ → Prop} (hkeeps : memory.Keeps kept) :
    memory.Lockstep memory fun s t => s = t ∧ kept s := by
  rintro s _ bookkeeping ⟨rfl, hs⟩
  exact ⟨rfl, rfl, hkeeps.grants bookkeeping hs⟩

/-- Requests for room leave the log as it is. -/
theorem recorded_keeps_log (memory : Memory σ) (log : List Record) :
    memory.recorded.Keeps fun recorded => recorded.log = log :=
  ⟨fun _ hlog => hlog⟩

end Memory

section Lockstep

variable {memory : Memory σ} {memory' : Memory τ} {related : σ → τ → Prop} {s : σ} {t : τ}
  (hmemory : memory.Lockstep memory' related)

include hmemory

theorem Memory.reserve_alike (bookkeeping : Bookkeeping) (hrelated : related s t) :
    Alike related (memory.reserve bookkeeping s) (memory'.reserve bookkeeping t) := by
  unfold reserve
  obtain ⟨granted, later, later', hs, ht, hlater⟩ := (hmemory bookkeeping hrelated).split
  rw [hs, ht]
  cases granted with
  | true => exact ⟨rfl, hlater⟩
  | false => exact ⟨rfl, hlater⟩

theorem Memory.reserveInstances_alike (expected : UInt64) (hrelated : related s t) :
    Alike related (memory.reserveInstances expected s) (memory'.reserveInstances expected t) := by
  unfold reserveInstances
  cases Analyzer.reserve expected with
  | error failure => exact ⟨rfl, hrelated⟩
  | ok _ => exact reserve_alike hmemory _ hrelated

namespace RootGroups

theorem openReserving_alike (partition : RootGroups) (key : RootKey) (hrelated : related s t) :
    Alike related (partition.openReserving memory key s)
      (partition.openReserving memory' key t) := by
  unfold openReserving
  obtain ⟨grouped, later, later', hs, ht, hlater⟩ :=
    (Memory.reserve_alike hmemory .group hrelated).split
  rw [hs, ht]
  cases grouped with
  | error failure => exact ⟨rfl, hlater⟩
  | ok _ =>
      obtain ⟨placed, last, last', hs, ht, hlast⟩ :=
        (Memory.reserve_alike hmemory .place hlater).split
      simp only [hs, ht]
      cases placed with
      | error failure => exact ⟨rfl, hlast⟩
      | ok _ => exact ⟨rfl, hlast⟩

theorem insertReserving_alike (partition : RootGroups) (key : RootKey) (id : InstanceId)
    (hrelated : related s t) :
    Alike related (partition.insertReserving memory key id s)
      (partition.insertReserving memory' key id t) := by
  have hplace : Alike related (partition.placeReserving memory key s)
      (partition.placeReserving memory' key t) := by
    unfold placeReserving
    cases partition.index[key]? with
    | some place => exact ⟨rfl, hrelated⟩
    | none =>
        obtain ⟨opened, later, later', hs, ht, hlater⟩ :=
          (openReserving_alike hmemory partition key hrelated).split
        simp only [hs, ht]
        cases opened with
        | error failure => exact ⟨rfl, hlater⟩
        | ok _ => exact ⟨rfl, hlater⟩
  unfold insertReserving
  obtain ⟨placed, later, later', hs, ht, hlater⟩ := hplace.split
  rw [hs, ht]
  cases placed with
  | error failure => exact ⟨rfl, hlater⟩
  | ok found =>
      obtain ⟨added, last, last', hs, ht, hlast⟩ :=
        (Memory.reserve_alike hmemory .member hlater).split
      simp only [hs, ht]
      cases added with
      | error failure => exact ⟨rfl, hlast⟩
      | ok _ => exact ⟨rfl, hlast⟩

end RootGroups

namespace Aggregation

theorem tallyReserving_alike (visits : List (InstanceId × Except Failure RootKey))
    (groups : RootGroups) (hrelated : related s t) :
    Alike related (tallyReserving memory visits groups s)
      (tallyReserving memory' visits groups t) := by
  induction visits generalizing groups s t with
  | nil => exact ⟨rfl, hrelated⟩
  | cons visit visits ih =>
      obtain ⟨id, result⟩ := visit
      cases result with
      | error failure => exact ⟨rfl, hrelated⟩
      | ok key =>
          unfold tallyReserving
          obtain ⟨inserted, later, later', hs, ht, hlater⟩ :=
            (RootGroups.insertReserving_alike hmemory groups key id hrelated).split
          rw [hs, ht]
          cases inserted with
          | error failure => exact ⟨rfl, hlater⟩
          | ok grown => exact ih grown hlater

variable {host : Host σ} {other : Host τ} (hlock : host.Lockstep other related)

include hlock

theorem gatherReserving_alike (limit : UInt64) (instances : List InstanceId)
    (groups : RootGroups) (hrelated : related s t) :
    Alike related (gatherReserving memory host limit instances groups s)
      (gatherReserving memory' other limit instances groups t) := by
  induction instances generalizing groups s t with
  | nil => exact conclude_alike hlock _ hrelated
  | cons id rest ih =>
      unfold gatherReserving
      rw [hlock.cancelled hrelated]
      split
      · exact ⟨rfl, hrelated⟩
      obtain ⟨key, resolved, resolved', hs, ht, hresolved⟩ :=
        (Resolution.resolve_alike hlock limit id hrelated).split
      rw [hs, ht]
      cases key with
      | error failure => exact ⟨rfl, hresolved⟩
      | ok key =>
          obtain ⟨inserted, grown, grown', hs, ht, hgrown⟩ :=
            (RootGroups.insertReserving_alike hmemory groups key id hresolved).split
          simp only [hs, ht]
          cases inserted with
          | error failure => exact ⟨rfl, hgrown⟩
          | ok groups =>
              obtain ⟨stepped, later, later', hs, ht, hlater⟩ := (hlock.step hgrown).split
              simp only [hs, ht]
              cases stepped with
              | error failure => exact ⟨rfl, hlater⟩
              | ok _ => exact ih groups hlater

omit hmemory in
theorem visitAll_alike (limit : UInt64) (instances : List InstanceId) (hrelated : related s t) :
    Alike related (visitAll host limit instances s) (visitAll other limit instances t) := by
  induction instances generalizing s t with
  | nil => exact ⟨rfl, hrelated⟩
  | cons id rest ih =>
      unfold visitAll
      obtain ⟨key, visited, visited', hs, ht, hvisited⟩ :=
        (visit_alike hlock limit id hrelated).split
      obtain ⟨visits, later, later', hs', ht', hlater⟩ := (ih hvisited).split
      simp only [hs, ht, hs', ht']
      exact ⟨rfl, hlater⟩

theorem gatherAllReserving_alike (limit : UInt64) (instances : List InstanceId)
    (hrelated : related s t) :
    Alike related (gatherAllReserving memory host limit instances s)
      (gatherAllReserving memory' other limit instances t) := by
  unfold gatherAllReserving
  obtain ⟨reserved, later, later', hs, ht, hlater⟩ :=
    (Memory.reserve_alike hmemory (.keys instances.length) hrelated).split
  rw [hs, ht]
  cases reserved with
  | error failure => exact ⟨rfl, hlater⟩
  | ok _ =>
      obtain ⟨visits, visited, visited', hs, ht, hvisited⟩ :=
        (visitAll_alike hlock limit instances hlater).split
      simp only [hs, ht, hlock.cancelled hvisited]
      split
      · exact ⟨rfl, hvisited⟩
      · exact tallyReserving_alike hmemory visits .empty hvisited

end Aggregation

theorem Analyzer.aggregateReserving_alike {host : Host σ} {other : Host τ}
    (hlock : host.Lockstep other related) (analyzer : Analyzer) (instances : List InstanceId)
    (expected : UInt64) (hrelated : related s t) :
    Alike related (analyzer.aggregateReserving memory host instances expected s)
      (analyzer.aggregateReserving memory' other instances expected t) := by
  unfold aggregateReserving
  obtain ⟨prepared, ready, ready', hs, ht, hready⟩ := (hlock.prepare hrelated).split
  rw [hs, ht]
  cases prepared with
  | error failure => exact ⟨rfl, hready⟩
  | ok _ =>
      cases analyzer.settings.parallelAggregation with
      | false =>
          exact hlock.duringRun _ (fun hopened =>
            Aggregation.gatherReserving_alike hmemory hlock _ instances .empty hopened) hready
      | true =>
          obtain ⟨reserved, collected, collected', hs, ht, hcollected⟩ :=
            (Memory.reserveInstances_alike hmemory expected hready).split
          simp only [if_true, hs, ht]
          cases reserved with
          | error failure => exact ⟨rfl, hcollected⟩
          | ok _ =>
              exact hlock.duringRun _ (fun hopened =>
                Aggregation.gatherAllReserving_alike hmemory hlock _ instances hopened) hcollected

end Lockstep

/-- What every call on the host and every request for room keeps, an aggregation keeps. -/
theorem Analyzer.aggregateReserving_keeps {memory : Memory σ} {host : Host σ} {kept : σ → Prop}
    (hmemory : memory.Keeps kept) (hhost : host.Keeps kept) (analyzer : Analyzer)
    (instances : List InstanceId) (expected : UInt64) {state : σ} (hstate : kept state) :
    kept (analyzer.aggregateReserving memory host instances expected state).2 :=
  (aggregateReserving_alike hmemory.lockstep hhost.lockstep analyzer instances expected
    ⟨rfl, hstate⟩).2.2

/-! ## Brackets -/

section Brackets

variable {memory : Memory σ} {recorded later : Recorded σ}

theorem Steps.of_log (hlog : later.log = recorded.log) : Steps recorded later [] := by
  unfold Steps Recorded.sinkCalls
  rw [hlog, List.map_nil, List.append_nil]

theorem Steps.none (hsteps : Steps recorded later []) (hnone : recorded.sinkCalls = []) :
    later.sinkCalls = [] := by
  rw [hsteps, hnone]
  rfl

theorem Steps.prepare {host : Host σ} {result : Except Failure Unit}
    (hprepare : host.recorded.prepare recorded = (result, later)) : Steps recorded later [] := by
  obtain ⟨-, rfl⟩ := Prod.mk.inj hprepare
  exact Host.sinkCalls_note _ _ _ _

theorem Memory.reserve_steps (memory : Memory σ) (bookkeeping : Bookkeeping)
    (recorded : Recorded σ) :
    Steps recorded (memory.recorded.reserve bookkeeping recorded).2 [] :=
  .of_log (reserve_alike (memory.recorded_keeps_log _).lockstep bookkeeping ⟨rfl, rfl⟩).2.2

theorem Memory.reserveInstances_steps (memory : Memory σ) (expected : UInt64)
    (recorded : Recorded σ) :
    Steps recorded (memory.recorded.reserveInstances expected recorded).2 [] :=
  .of_log (reserveInstances_alike (memory.recorded_keeps_log _).lockstep expected ⟨rfl, rfl⟩).2.2

theorem RootGroups.insertReserving_steps (memory : Memory σ) (partition : RootGroups)
    (key : RootKey) (id : InstanceId) (recorded : Recorded σ) :
    Steps recorded (partition.insertReserving memory.recorded key id recorded).2 [] :=
  .of_log (insertReserving_alike (memory.recorded_keeps_log _).lockstep partition key id
    ⟨rfl, rfl⟩).2.2

namespace Aggregation

theorem tallyReserving_steps (memory : Memory σ)
    (visits : List (InstanceId × Except Failure RootKey)) (groups : RootGroups)
    (recorded : Recorded σ) :
    Steps recorded (tallyReserving memory.recorded visits groups recorded).2 [] :=
  .of_log (tallyReserving_alike (memory.recorded_keeps_log _).lockstep visits groups
    ⟨rfl, rfl⟩).2.2

/-- Instances are added and stepped for by turns, up to the first that fails. -/
theorem gatherReserving_steps (memory : Memory σ) (host : Host σ) (limit : UInt64)
    (instances : List InstanceId) (groups : RootGroups) (recorded : Recorded σ) :
    ∃ steps, Steps recorded
        (gatherReserving memory.recorded host.recorded limit instances groups recorded).2 steps ∧
      Orderly (gatherReserving memory.recorded host.recorded limit instances groups recorded).1
        (fun _ number => number = instances.length) steps := by
  induction instances generalizing groups recorded with
  | nil =>
      refine ⟨[], ?_, .accepted 0 fun _ _ => rfl⟩
      rw [gatherReserving, conclude_state]
      exact .refl recorded
  | cons id rest ih =>
      have hresolved := Resolution.resolve_steps host limit id recorded
      unfold gatherReserving
      split
      · exact ⟨[], .refl recorded, .none_of_error _⟩
      split
      next failure resolved hresolve =>
        rw [hresolve] at hresolved
        exact ⟨[], hresolved, .none_of_error _⟩
      next key resolved hresolve =>
        rw [hresolve] at hresolved
        have hinserted := groups.insertReserving_steps memory key id resolved
        split
        next failure inserted hinsert =>
          rw [hinsert] at hinserted
          exact ⟨[], hresolved.trans hinserted, .none_of_error _⟩
        next grown inserted hinsert =>
          rw [hinsert] at hinserted
          have hadded : Steps recorded inserted [] := hresolved.trans hinserted
          split
          next failure stepped hstep =>
            exact ⟨_, hadded.trans (.step hstep), .only_failed _⟩
          next stepped hstep =>
            obtain ⟨steps, hsteps, horderly⟩ := ih grown stepped
            refine ⟨_, (hadded.trans (.step hstep)).trans hsteps, horderly.cons ?_⟩
            intro _ number hnumber
            rw [hnumber, List.length_cons]

/-- Visits none of which fails have all been stepped for. -/
theorem visitAll_steps (host : Host σ) (limit : UInt64) (instances : List InstanceId)
    (recorded : Recorded σ) :
    ∃ steps, Steps recorded (visitAll host.recorded limit instances recorded).2 steps ∧
      ((∀ visit ∈ (visitAll host.recorded limit instances recorded).1,
        ∃ key, visit.2 = .ok key) → steps = List.replicate instances.length (.ok ())) := by
  induction instances generalizing recorded with
  | nil => exact ⟨[], .refl recorded, fun _ => rfl⟩
  | cons id rest ih =>
      obtain ⟨steps, hsteps, hvisit⟩ := visit_steps host limit id recorded
      obtain ⟨steps', hsteps', hrest⟩ := ih (visit host.recorded limit id recorded).2
      refine ⟨steps ++ steps', hsteps.trans hsteps', fun hok => ?_⟩
      obtain ⟨key, hkey⟩ := hok _ List.mem_cons_self
      rw [hrest fun visit hvisit => hok visit (List.mem_cons_of_mem _ hvisit)]
      rcases hvisit with ⟨_, -, rfl⟩ | ⟨failure, hfailure, -⟩
      · rfl
      · cases hkey.symm.trans hfailure

theorem gatherAllReserving_steps (memory : Memory σ) (host : Host σ) (limit : UInt64)
    (instances : List InstanceId) (recorded : Recorded σ) :
    ∃ steps, Steps recorded
        (gatherAllReserving memory.recorded host.recorded limit instances recorded).2 steps ∧
      AllStepped (gatherAllReserving memory.recorded host.recorded limit instances recorded).1
        instances.length steps := by
  have hreserved := memory.reserve_steps (.keys instances.length) recorded
  unfold gatherAllReserving
  split
  next failure reserved hreserve =>
    rw [hreserve] at hreserved
    exact ⟨[], hreserved, .of_error⟩
  next reserved hreserve =>
    rw [hreserve] at hreserved
    obtain ⟨steps, hsteps, hvisits⟩ := visitAll_steps host limit instances reserved
    have hvisited := hreserved.trans hsteps
    simp only
    split
    · exact ⟨steps, hvisited, .of_error⟩
    · refine ⟨steps ++ [], hvisited.trans (tallyReserving_steps memory _ .empty _), ?_⟩
      intro groups hgroups
      rw [List.append_nil]
      exact hvisits (all_ok_of_tally (tallyReserving_ok hgroups))

section

variable (memory : Memory σ) (host : Host σ) (limit : UInt64) (instances : List InstanceId)

theorem sequentialReserving_bracketed (expected : UInt64) (hnone : recorded.sinkCalls = []) :
    let run := sequentialReserving memory.recorded host.recorded limit instances expected recorded
    Bracketed run.1 False (some expected)
      (Orderly run.1 fun _ number => number = instances.length) run.2.sinkCalls :=
  host.duringRun_bracketed (some expected)
    (fun result => Orderly result fun _ number => number = instances.length)
    (gatherReserving_steps memory host limit instances .empty) hnone

theorem exhaustiveReserving_bracketed (hnone : recorded.sinkCalls = []) :
    let run := exhaustiveReserving memory.recorded host.recorded limit instances recorded
    Bracketed run.1 False (some (UInt64.ofNat instances.length))
      (AllStepped run.1 instances.length) run.2.sinkCalls :=
  host.duringRun_bracketed (some (UInt64.ofNat instances.length))
    (fun result => AllStepped result instances.length)
    (gatherAllReserving_steps memory host limit instances) hnone

end

end Aggregation

namespace Analyzer

variable (analyzer : Analyzer) (memory : Memory σ) (host : Host σ) (instances : List InstanceId)
  (expected : UInt64) (state : σ)

/-- Recorded, an aggregation that asks for room is the aggregation itself. -/
theorem aggregateReserving_recorded :
    let run := analyzer.aggregateReserving memory.recorded host.recorded instances expected
      (.start state)
    run.1 = (analyzer.aggregateReserving memory host instances expected state).1 ∧
      run.2.state = (analyzer.aggregateReserving memory host instances expected state).2 :=
  aggregateReserving_alike memory.recorded_lockstep host.recorded_lockstep analyzer instances
    expected rfl

/-- The host failed to prepare, or there was no room to set the instances of an exhaustive
aggregation aside. -/
def SilentReserving : Prop :=
  ∃ failure,
    ((host.prepare state).1 = .error failure ∨
      analyzer.settings.parallelAggregation = true ∧
        (memory.reserveInstances expected (host.prepare state).2).1 = .error failure) ∧
    (analyzer.aggregateReserving memory host instances expected state).1 = .error failure

/-- Whatever memory refuses, the sink calls of an aggregation are bracketed. -/
theorem aggregateReserving_bracketed :
    analyzer.AggregationBracketed
      (analyzer.aggregateReserving memory host instances expected state).1
      (analyzer.SilentReserving memory host instances expected state) instances expected
      (analyzer.aggregateReserving memory.recorded host.recorded instances expected
        (.start state)).2.sinkCalls := by
  obtain ⟨hresult, -⟩ := analyzer.aggregateReserving_recorded memory host instances expected state
  have hroom (recorded : Recorded σ) : (memory.recorded.reserveInstances expected recorded).1 =
      (memory.reserveInstances expected recorded.state).1 :=
    (Memory.reserveInstances_alike memory.recorded_lockstep expected rfl).1
  rw [SilentReserving, ← hresult]
  rcases analyzer.aggregateReserving_cases memory.recorded host.recorded instances expected
      (.start state) with
    ⟨failure, prepared, hprepare, hrun⟩ | ⟨prepared, hprepare, hcases⟩
  · obtain ⟨hfailure, rfl⟩ := Prod.mk.inj hprepare
    rw [hrun]
    exact .nothing ⟨failure, .inl hfailure, rfl⟩
  have hnone : prepared.sinkCalls = [] := Steps.prepare hprepare
  have hreserved := memory.reserveInstances_steps expected prepared
  obtain ⟨hready, rfl⟩ := Prod.mk.inj hprepare
  rcases hcases with ⟨hparallel, failure, reserved, hreserve, hrun⟩ |
    ⟨hparallel, reserved, hreserve, hrun⟩ | ⟨hsequential, hrun⟩
  · have hrefused := (hroom _).symm.trans (congrArg Prod.fst hreserve)
    rw [hreserve] at hreserved
    rw [hrun, hreserved.none hnone]
    exact .nothing ⟨failure, .inr ⟨hparallel, hrefused⟩, rfl⟩
  · have hgranted := (hroom _).symm.trans (congrArg Prod.fst hreserve)
    rw [hreserve] at hreserved
    rw [hrun]
    refine ⟨fun hsequential => ?_, fun _ => ?_⟩
    · cases hsequential.symm.trans hparallel
    · refine (Aggregation.exhaustiveReserving_bracketed memory host _ instances
        (hreserved.none hnone)).congr (iff_of_false not_false ?_)
      rintro ⟨failure, hfailure | ⟨-, hfailure⟩, -⟩
      · cases hready.symm.trans hfailure
      · cases hgranted.symm.trans hfailure
  · rw [hrun]
    refine ⟨fun _ => ?_, fun hparallel => ?_⟩
    · refine (Aggregation.sequentialReserving_bracketed memory host _ instances expected
        hnone).congr (iff_of_false not_false ?_)
      rintro ⟨failure, hfailure | ⟨hparallel, -⟩, -⟩
      · cases hready.symm.trans hfailure
      · cases hsequential.symm.trans hparallel
    · cases hsequential.symm.trans hparallel

/-- An aggregation that does not ask for room is bracketed as one that always finds it. -/
theorem aggregate_bracketed :
    analyzer.AggregationBracketed (analyzer.aggregate host instances expected state).1
      (analyzer.SilentAggregation host state instances expected) instances expected
      (Analysis.sinkCalls (fun host => analyzer.aggregate host instances expected) host state) := by
  have hbracketed := analyzer.aggregateReserving_bracketed .ample host instances expected state
  simp only [Memory.recorded_ample, SilentReserving, Memory.reserveInstances_ample,
    aggregateReserving_ample] at hbracketed
  exact hbracketed

end Analyzer

end Brackets

end Retention
