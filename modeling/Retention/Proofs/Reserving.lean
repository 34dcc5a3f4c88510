import Retention.Aggregation.Reserving
import Retention.Proofs.Reading

/-!
# Room for an aggregation

Memory can keep an aggregation from its result but not lead it to another one. A group that is
opened empty and then gets its first member is the group that is added with it, so an insertion
either finds all the room that it asks for, and is an ordinary insertion, or is a failure for want
of memory. Groups that come out are therefore the groups that the heap decides, whatever the
memory; and in a memory that has room for everything, asking changes nothing.
-/

namespace Retention

variable {σ : Type} {memory : Memory σ} {host : Host σ} {heap : HeapView} {limit : UInt64}
  {instances : List InstanceId} {groups found : RootGroups} {state : σ}

/-! ## Insertions -/

theorem Memory.reserve_ample (bookkeeping : Bookkeeping) (state : σ) :
    ample.reserve bookkeeping state = (.ok (), state) :=
  rfl

theorem Memory.reserveInstances_ample (expected : UInt64) (state : σ) :
    ample.reserveInstances expected state = (Analyzer.reserve expected, state) := by
  unfold reserveInstances
  cases Analyzer.reserve expected with
  | error failure => rfl
  | ok _ => rfl

theorem Memory.reserve_cases (memory : Memory σ) (bookkeeping : Bookkeeping) (state : σ) :
    ∃ later, memory.reserve bookkeeping state = (.ok (), later) ∨
      memory.reserve bookkeeping state = (.error (.outOfMemory bookkeeping.purpose), later) := by
  unfold reserve
  split
  next later _ => exact ⟨later, .inl rfl⟩
  next later _ => exact ⟨later, .inr rfl⟩

theorem modify_push_last {α : Type} (items : Array α) (item : α) (change : α → α) :
    (items.push item).modify items.size change = items.push (change item) := by
  apply Array.ext_getElem?
  intro i
  rw [Array.getElem?_modify, Array.getElem?_push, Array.getElem?_push]
  by_cases hlast : i = items.size
  · simp [hlast]
  · simp [hlast, Ne.symm hlast]

namespace RootGroups

/-- An insertion finds room and is an ordinary one, or ends for want of room. -/
theorem insertReserving_cases (memory : Memory σ) (partition : RootGroups) (key : RootKey)
    (id : InstanceId) (state : σ) :
    ∃ later,
      partition.insertReserving memory key id state = (.ok (partition.insert key id), later) ∨
      ∃ bookkeeping : Bookkeeping, partition.insertReserving memory key id state =
        (.error (.outOfMemory bookkeeping.purpose), later) := by
  unfold insertReserving placeReserving insert
  cases hindex : partition.index[key]? with
  | some place =>
      obtain ⟨later, hmember | hmember⟩ := memory.reserve_cases .member state
      · exact ⟨later, .inl (by simp only [hmember])⟩
      · exact ⟨later, .inr ⟨.member, by simp only [hmember]⟩⟩
  | none =>
      unfold openReserving
      obtain ⟨opened, hgroup | hgroup⟩ := memory.reserve_cases .group state
      · obtain ⟨placed, hplace | hplace⟩ := memory.reserve_cases .place opened
        · obtain ⟨later, hmember | hmember⟩ := memory.reserve_cases .member placed
          · refine ⟨later, .inl ?_⟩
            simp only [hgroup, hplace, hmember, modify_push_last]
            rfl
          · exact ⟨later, .inr ⟨.member, by simp only [hgroup, hplace, hmember]⟩⟩
        · exact ⟨placed, .inr ⟨.place, by simp only [hgroup, hplace]⟩⟩
      · exact ⟨opened, .inr ⟨.group, by simp only [hgroup]⟩⟩

theorem insertReserving_ok {key : RootKey} {id : InstanceId} {later : σ}
    (hinsert : groups.insertReserving memory key id state = (.ok found, later)) :
    found = groups.insert key id := by
  obtain ⟨last, hok | ⟨bookkeeping, herror⟩⟩ :=
    groups.insertReserving_cases memory key id state
  · rw [hok] at hinsert
    cases hinsert
    rfl
  · rw [herror] at hinsert
    cases hinsert

theorem insertReserving_ample (partition : RootGroups) (key : RootKey) (id : InstanceId)
    (state : σ) :
    partition.insertReserving .ample key id state = (.ok (partition.insert key id), state) := by
  unfold insertReserving placeReserving insert
  cases partition.index[key]? with
  | some place => rfl
  | none =>
      simp only [openReserving, Memory.reserve_ample, modify_push_last]
      rfl

end RootGroups

/-! ## Groups that come out -/

namespace Aggregation

/-- Visits whose tally finds all its room come to the tally. -/
theorem tallyReserving_ok {visits : List (InstanceId × Except Failure RootKey)}
    (htally : (tallyReserving memory visits groups state).1 = .ok found) :
    tally (.ok groups) visits = .ok found := by
  fun_induction tallyReserving memory visits groups state with
  | case1 => exact htally
  | case2 => cases htally
  | case3 => cases htally
  | case4 groups state id key visits grown later hinsert ih =>
      obtain rfl := RootGroups.insertReserving_ok hinsert
      exact ih htally

/-- Groups that come out of the sequential form are those that the heap decides. -/
theorem gatherReserving_ok (hanswers : host.Answers heap)
    (hgather : (gatherReserving memory host limit instances groups state).1 = .ok found) :
    tally (.ok groups) (instances.map fun id => (id, heap.resolved limit id)) = .ok found := by
  fun_induction gatherReserving memory host limit instances groups state with
  | case1 groups state => exact ((conclude_eq_ok_iff _ _).mp hgather).1
  | case2 => cases hgather
  | case3 => cases hgather
  | case4 => cases hgather
  | case5 => cases hgather
  | case6 id rest groups state _ key resolved hresolve grown inserted hinsert stepped _ ih =>
      obtain rfl := RootGroups.insertReserving_ok hinsert
      have hkey : heap.resolved limit id = .ok key :=
        Resolution.resolve_ok hanswers (congrArg Prod.fst hresolve)
      rw [List.map_cons, hkey, tally_cons_ok]
      exact ih hgather

theorem gatherAllReserving_ok (hanswers : host.Answers heap)
    (hgather : (gatherAllReserving memory host limit instances state).1 = .ok found) :
    tally (.ok .empty) (instances.map fun id => (id, heap.resolved limit id)) = .ok found := by
  unfold gatherAllReserving at hgather
  split at hgather
  next => cases hgather
  next reserved _ =>
    simp only at hgather
    split at hgather
    next => cases hgather
    next => exact tally_visitAll_ok hanswers (tallyReserving_ok hgather)

/-! ## Ample memory -/

theorem gatherReserving_ample (host : Host σ) (limit : UInt64) (instances : List InstanceId)
    (groups : RootGroups) (state : σ) :
    gatherReserving .ample host limit instances groups state =
      gather host limit instances groups state := by
  induction instances generalizing groups state with
  | nil => rfl
  | cons id rest ih =>
      -- An instance is added before its step and not after it; only its failures tell.
      rw [gatherReserving, gather, visit]
      split
      · rfl
      · cases Resolution.resolve host limit id state with
        | mk result resolved =>
            cases result with
            | error failure => rfl
            | ok key =>
                simp only [RootGroups.insertReserving_ample]
                cases host.step resolved with
                | mk stepped later =>
                    cases stepped with
                    | error failure => rfl
                    | ok _ => exact ih _ _

theorem tallyReserving_ample (visits : List (InstanceId × Except Failure RootKey))
    (groups : RootGroups) (state : σ) :
    tallyReserving .ample visits groups state = (tally (.ok groups) visits, state) := by
  induction visits generalizing groups with
  | nil => rfl
  | cons visit visits ih =>
      obtain ⟨id, result⟩ := visit
      cases result with
      | error failure => rw [tallyReserving, tally_cons_error]
      | ok key =>
          rw [tallyReserving, RootGroups.insertReserving_ample, tally_cons_ok]
          exact ih _

theorem gatherAllReserving_ample (host : Host σ) (limit : UInt64) (instances : List InstanceId)
    (state : σ) :
    gatherAllReserving .ample host limit instances state =
      gatherAll host limit instances (.ok .empty) state := by
  rw [gatherAll_eq, gatherAllReserving, Memory.reserve_ample]
  simp only [tallyReserving_ample]
  rfl

end Aggregation

namespace Analyzer

theorem aggregateReserving_cases (analyzer : Analyzer) (memory : Memory σ) (host : Host σ)
    (instances : List InstanceId) (expected : UInt64) (state : σ) :
    (∃ failure prepared, host.prepare state = (.error failure, prepared) ∧
        analyzer.aggregateReserving memory host instances expected state =
          (.error failure, prepared)) ∨
      ∃ prepared, host.prepare state = (.ok (), prepared) ∧
        ((analyzer.settings.parallelAggregation = true ∧
            ∃ failure reserved, memory.reserveInstances expected prepared =
                (.error failure, reserved) ∧
              analyzer.aggregateReserving memory host instances expected state =
                (.error failure, reserved)) ∨
          (analyzer.settings.parallelAggregation = true ∧
            ∃ reserved, memory.reserveInstances expected prepared = (.ok (), reserved) ∧
              analyzer.aggregateReserving memory host instances expected state =
                Aggregation.exhaustiveReserving memory host analyzer.settings.maxRootDistance
                  instances reserved) ∨
          analyzer.settings.parallelAggregation = false ∧
            analyzer.aggregateReserving memory host instances expected state =
              Aggregation.sequentialReserving memory host analyzer.settings.maxRootDistance
                instances expected prepared) := by
  unfold aggregateReserving
  split
  next failure prepared hprepare => exact .inl ⟨failure, prepared, hprepare, rfl⟩
  next prepared hprepare =>
    refine .inr ⟨prepared, hprepare, ?_⟩
    split
    next hparallel =>
      split
      next failure reserved hreserve =>
        exact .inl ⟨hparallel, failure, reserved, hreserve, rfl⟩
      next reserved hreserve => exact .inr (.inl ⟨hparallel, reserved, hreserve, rfl⟩)
    next hsequential => exact .inr (.inr ⟨Bool.eq_false_iff.mpr hsequential, rfl⟩)

/-- Whatever the memory, groups that come out are the tally of what the instances resolve to. -/
theorem aggregateReserving_ok (hanswers : host.Answers heap) (analyzer : Analyzer)
    {expected : UInt64}
    (hresult : (analyzer.aggregateReserving memory host instances expected state).1 = .ok groups) :
    Aggregation.tally (.ok .empty)
      (instances.map fun id => (id, heap.resolved analyzer.settings.maxRootDistance id)) =
        .ok groups := by
  rcases analyzer.aggregateReserving_cases memory host instances expected state with
    ⟨failure, prepared, -, hrun⟩ | ⟨prepared, -, ⟨-, failure, reserved, -, hrun⟩ |
      ⟨-, reserved, -, hrun⟩ | ⟨-, hrun⟩⟩
  · rw [hrun] at hresult
    cases hresult
  · rw [hrun] at hresult
    cases hresult
  · rw [hrun] at hresult
    obtain ⟨opened, _, hgather, _⟩ := Host.duringRun_ok hresult
    exact Aggregation.gatherAllReserving_ok hanswers hgather
  · rw [hrun] at hresult
    obtain ⟨opened, _, hgather, _⟩ := Host.duringRun_ok hresult
    exact Aggregation.gatherReserving_ok hanswers hgather

/-- In a memory that has room for everything, aggregation is what it is without asking. -/
theorem aggregateReserving_ample (analyzer : Analyzer) (host : Host σ)
    (instances : List InstanceId) (expected : UInt64) (state : σ) :
    analyzer.aggregateReserving .ample host instances expected state =
      analyzer.aggregate host instances expected state := by
  have hgather : Aggregation.gatherReserving .ample host analyzer.settings.maxRootDistance
      instances .empty = Aggregation.gather host _ instances .empty :=
    funext (Aggregation.gatherReserving_ample host _ instances .empty)
  have hgatherAll : Aggregation.gatherAllReserving .ample host analyzer.settings.maxRootDistance
      instances = Aggregation.gatherAll host _ instances (.ok .empty) :=
    funext (Aggregation.gatherAllReserving_ample host _ instances)
  unfold aggregateReserving aggregate
  simp only [Aggregation.sequentialReserving, Aggregation.exhaustiveReserving, hgather, hgatherAll,
    Memory.reserveInstances_ample]
  cases reserve expected with
  | error failure => rfl
  | ok _ => rfl

end Analyzer

end Retention
