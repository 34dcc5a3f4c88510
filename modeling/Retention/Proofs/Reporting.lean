import Retention.Proofs.Announced
import Retention.Proofs.Refusals
import Retention.Proofs.Reserving
import Retention.Proofs.Work

/-!
# Reports of aggregations

A report on an aggregation goes by the number of groups. Since the groups are a partition of the
instances by what they resolve to, that number tells apart no instance at all, instances that all
share a key, and instances of several keys. Running out of memory is the one failure that is shown
as a report.
-/

namespace Retention

/-! ## How many groups there are -/

theorem HeapView.key?_eq_some_iff (heap : HeapView) (limit : UInt64) (id : InstanceId)
    (key : RootKey) : heap.key? limit id = some key ↔ heap.resolved limit id = .ok key := by
  unfold key?
  cases heap.resolved limit id with
  | error failure => simp [Except.toOption]
  | ok found => simp [Except.toOption]

/-- Two instances that resolve differ in their keys exactly if they resolve differently. -/
theorem HeapView.key?_ne_iff {heap : HeapView} {limit : UInt64} {first second : InstanceId}
    (hfirst : ∃ key, heap.key? limit first = some key)
    (hsecond : ∃ key, heap.key? limit second = some key) :
    heap.key? limit first ≠ heap.key? limit second ↔
      heap.resolved limit first ≠ heap.resolved limit second := by
  obtain ⟨key, hkey⟩ := hfirst
  obtain ⟨key', hkey'⟩ := hsecond
  rw [hkey, hkey', (heap.key?_eq_some_iff limit first key).mp hkey,
    (heap.key?_eq_some_iff limit second key').mp hkey']
  simp

namespace RootGroups

theorem Indexed.first_ne_second {partition : RootGroups} (hindexed : partition.Indexed)
    {first second : RootGroup} {rest : List RootGroup}
    (hgroups : partition.groups.toList = first :: second :: rest) : first.key ≠ second.key := by
  have hnodup := hindexed.keys_nodup
  rw [hgroups, List.map_cons, List.nodup_cons] at hnodup
  intro hsame
  exact hnodup.1 (hsame ▸ List.mem_cons_self)

namespace Partitions

variable {partition : RootGroups} {key? : InstanceId → Option RootKey} {ids : List InstanceId}
  {group : RootGroup}

theorem exists_of_mem_toList (hparts : partition.Partitions key? ids)
    (hgroup : group ∈ partition.groups.toList) : ∃ id ∈ ids, key? id = some group.key :=
  (hparts.exists_group_iff group.key).mp ⟨group, Array.mem_toList_iff.mp hgroup, rfl⟩

/-- A group whose key all instances have is made of all of them. -/
theorem members_of_shared (hparts : partition.Partitions key? ids)
    (hgroup : group ∈ partition.groups.toList) (hshared : ∀ id ∈ ids, key? id = some group.key) :
    group.members.toList = ids := by
  rw [hparts.members group (Array.mem_toList_iff.mp hgroup), List.filter_eq_self]
  exact fun id hid => decide_eq_true (hshared id hid)

variable (hparts : partition.Partitions key? ids)
  (hkeyed : ∀ id ∈ ids, ∃ key, key? id = some key)

include hparts hkeyed

theorem exists_group_of_mem {id : InstanceId} (hid : id ∈ ids) :
    ∃ group ∈ partition.groups.toList, key? id = some group.key := by
  obtain ⟨key, hkey⟩ := hkeyed id hid
  obtain ⟨group, hgroup, rfl⟩ := (hparts.exists_group_iff key).mpr ⟨id, hid, hkey⟩
  exact ⟨group, Array.mem_toList_iff.mpr hgroup, hkey⟩

theorem toList_eq_nil_iff : partition.groups.toList = [] ↔ ids = [] := by
  rw [List.eq_nil_iff_forall_not_mem, List.eq_nil_iff_forall_not_mem]
  constructor
  · intro hnone id hid
    obtain ⟨group, hgroup, -⟩ := hparts.exists_group_of_mem hkeyed hid
    exact hnone group hgroup
  · intro hnone group hgroup
    obtain ⟨id, hid, -⟩ := hparts.exists_of_mem_toList hgroup
    exact hnone id hid

/-- There is a lone group exactly if there are instances and all have its key. -/
theorem toList_eq_singleton_iff :
    partition.groups.toList = [group] ↔
      ids ≠ [] ∧ (∀ id ∈ ids, key? id = some group.key) ∧ group.members.toList = ids := by
  constructor
  · intro hlone
    have hgroup : group ∈ partition.groups.toList := hlone ▸ List.mem_singleton_self group
    have hshared : ∀ id ∈ ids, key? id = some group.key := by
      intro id hid
      obtain ⟨other, hother, hkey⟩ := hparts.exists_group_of_mem hkeyed hid
      rw [hlone, List.mem_singleton] at hother
      rwa [hother] at hkey
    refine ⟨fun hnone => ?_, hshared, hparts.members_of_shared hgroup hshared⟩
    rw [(hparts.toList_eq_nil_iff hkeyed).mpr hnone] at hgroup
    cases hgroup
  · rintro ⟨hsome, hshared, hmembers⟩
    -- Any group has the shared key and so all the instances, and no key is there twice.
    have hkey : ∀ other ∈ partition.groups.toList, other.key = group.key := by
      intro other hother
      obtain ⟨id, hid, hkey⟩ := hparts.exists_of_mem_toList hother
      exact Option.some.inj (hkey.symm.trans (hshared id hid))
    match hgroups : partition.groups.toList with
    | [] => exact absurd ((hparts.toList_eq_nil_iff hkeyed).mp hgroups) hsome
    | [⟨key, members⟩] =>
        have honly : ⟨key, members⟩ ∈ partition.groups.toList := hgroups ▸ List.mem_cons_self
        obtain rfl : key = group.key := hkey _ honly
        have hall : members.toList = ids := hparts.members_of_shared honly hshared
        rw [Array.toList_inj.mp (hall.trans hmembers.symm)]
    | first :: second :: rest =>
        have hfirst := hkey first (hgroups ▸ List.mem_cons_self)
        have hsecond := hkey second (hgroups ▸ List.mem_cons_of_mem _ List.mem_cons_self)
        exact absurd (hfirst.trans hsecond.symm) (hparts.indexed.first_ne_second hgroups)

/-- There are several groups exactly if two instances differ in their keys. -/
theorem two_le_size_iff :
    2 ≤ partition.size ↔ ∃ first ∈ ids, ∃ second ∈ ids, key? first ≠ key? second := by
  have hsize : partition.size = partition.groups.toList.length := Array.length_toList.symm
  rw [hsize]
  match hgroups : partition.groups.toList with
  | [] =>
      rw [(hparts.toList_eq_nil_iff hkeyed).mp hgroups]
      simp
  | [only] =>
      obtain ⟨-, hshared, -⟩ := (hparts.toList_eq_singleton_iff hkeyed).mp hgroups
      refine iff_of_false (by simp) ?_
      rintro ⟨first, hfirst, second, hsecond, hdiffer⟩
      exact hdiffer ((hshared first hfirst).trans (hshared second hsecond).symm)
  | first :: second :: rest =>
      have hfirst : first ∈ partition.groups.toList := hgroups ▸ List.mem_cons_self
      have hsecond : second ∈ partition.groups.toList :=
        hgroups ▸ List.mem_cons_of_mem _ List.mem_cons_self
      obtain ⟨id, hid, hkey⟩ := hparts.exists_of_mem_toList hfirst
      obtain ⟨id', hid', hkey'⟩ := hparts.exists_of_mem_toList hsecond
      refine iff_of_true (by simp) ⟨id, hid, id', hid', fun hsame => ?_⟩
      rw [hkey, hkey', Option.some.injEq] at hsame
      exact hparts.indexed.first_ne_second hgroups hsame

end Partitions

end RootGroups

/-! ## Folding a result into a report -/

namespace Report

variable {groups other : RootGroups} {group : RootGroup}

theorem ofGroups_eq_noRoot_iff : ofGroups groups = .noRoot ↔ groups.groups.toList = [] := by
  unfold ofGroups
  split
  next hgroups => simp [hgroups]
  next only hgroups => simp [hgroups]
  next hnone _ => simpa using hnone

theorem ofGroups_eq_singleGroup_iff :
    ofGroups groups = .singleGroup group ↔ groups.groups.toList = [group] := by
  unfold ofGroups
  split
  next hgroups => simp [hgroups]
  next only hgroups => simp [hgroups]
  next _ hmore => simpa using hmore group

theorem ofGroups_eq_groups_iff :
    ofGroups groups = .groups other ↔ groups = other ∧ 2 ≤ groups.size := by
  have hsize : groups.size = groups.groups.toList.length := Array.length_toList.symm
  rw [hsize]
  unfold ofGroups
  split
  next hgroups => simp [hgroups]
  next only hgroups => simp [hgroups]
  next hnone hlone =>
    have htwo : 2 ≤ groups.groups.toList.length := by
      match hgroups : groups.groups.toList with
      | [] => exact absurd hgroups hnone
      | [only] => exact absurd hgroups (hlone only)
      | first :: second :: rest => simp
    rw [Report.groups.injEq, and_iff_left htwo]

theorem ofGroups_ne_outOfMemory (groups : RootGroups) : ofGroups groups ≠ .outOfMemory := by
  unfold ofGroups
  split
  · exact nofun
  · exact nofun
  · exact nofun

end Report

namespace Analyzer

variable {result : Except Failure RootGroups}

theorem reportOf_error (failure : Failure) :
    reportOf (.error failure) =
      if failure.isOutOfMemory then .ok .outOfMemory else .error failure := by
  cases failure <;> rfl

theorem reportOf_eq_error_iff (failure : Failure) :
    reportOf result = .error failure ↔
      result = .error failure ∧ failure.isOutOfMemory = false := by
  cases result with
  | ok groups => exact ⟨nofun, nofun⟩
  | error other =>
      rw [reportOf_error]
      cases hmemory : other.isOutOfMemory with
      | true =>
          refine ⟨nofun, ?_⟩
          rintro ⟨hsame, hother⟩
          cases hsame
          rw [hmemory] at hother
          cases hother
      | false =>
          simp only [Bool.false_eq_true, if_false]
          refine ⟨fun hsame => ?_, fun hsame => ?_⟩
          · cases hsame
            exact ⟨rfl, hmemory⟩
          · cases hsame.1
            rfl

/-- A report is that of groups, or says that memory ran out. -/
theorem reportOf_eq_ok_iff (report : Report) :
    reportOf result = .ok report ↔
      (∃ groups, result = .ok groups ∧ Report.ofGroups groups = report) ∨
        (∃ context, result = .error (.outOfMemory context)) ∧ report = .outOfMemory := by
  unfold reportOf
  split
  next groups => simp
  next context => simp [eq_comm]
  next failure hother =>
    refine ⟨nofun, ?_⟩
    rintro (⟨groups, hgroups, -⟩ | ⟨⟨context, hcontext⟩, -⟩)
    · cases hgroups
    · cases hcontext
      exact absurd rfl (hother context)

end Analyzer

/-- What the report on an aggregation of `instances` says of the result that it is folded from. A
report that is not the one for lack of memory comes of groups, and is told by the keys that the
instances resolve to. -/
structure Report.Reflects (heap : HeapView) (limit : UInt64) (instances : List InstanceId)
    (result : Except Failure RootGroups) (report : Except Failure Report) : Prop where
  noRoot_iff : report = .ok .noRoot ↔ (∃ groups, result = .ok groups) ∧ instances = []
  singleGroup_iff : ∀ group, report = .ok (.singleGroup group) ↔
    (∃ groups, result = .ok groups) ∧ instances ≠ [] ∧
      (∀ id ∈ instances, heap.resolved limit id = .ok group.key) ∧
      group.members.toList = instances
  groups_iff : ∀ groups, report = .ok (.groups groups) ↔
    result = .ok groups ∧ ∃ first ∈ instances, ∃ second ∈ instances,
      heap.resolved limit first ≠ heap.resolved limit second
  display_singleGroup : ∀ group, report = .ok (.singleGroup group) →
    (Report.singleGroup group).display =
      group.key.display ++ " (" ++ instances.length.repr ++ " instances)"
  display_groups : ∀ groups, report = .ok (.groups groups) →
    (Report.groups groups).display =
      groups.size.repr ++ " GC roots (" ++ instances.length.repr ++ " instances)"
  outOfMemory_iff : report = .ok .outOfMemory ↔ ∃ context, result = .error (.outOfMemory context)
  error_iff : ∀ failure, report = .error failure ↔
    result = .error failure ∧ failure.isOutOfMemory = false

namespace Analyzer

variable {heap : HeapView} {limit : UInt64} {instances : List InstanceId}
  {result : Except Failure RootGroups}

/-- The report on groups that partition the instances reflects them. -/
theorem reflects_ofGroups {groups : RootGroups}
    (hparts : groups.Partitions (heap.key? limit) instances)
    (hkeyed : ∀ id ∈ instances, ∃ key, heap.key? limit id = some key) :
    Report.Reflects heap limit instances (.ok groups) (.ok (.ofGroups groups)) where
  noRoot_iff := by
    rw [Except.ok.injEq, Report.ofGroups_eq_noRoot_iff, hparts.toList_eq_nil_iff hkeyed]
    exact (and_iff_right ⟨groups, rfl⟩).symm
  singleGroup_iff group := by
    rw [Except.ok.injEq, Report.ofGroups_eq_singleGroup_iff, hparts.toList_eq_singleton_iff hkeyed]
    simp only [HeapView.key?_eq_some_iff]
    exact (and_iff_right ⟨groups, rfl⟩).symm
  groups_iff other := by
    rw [Except.ok.injEq, Except.ok.injEq, Report.ofGroups_eq_groups_iff,
      hparts.two_le_size_iff hkeyed]
    refine and_congr_right fun _ => ?_
    constructor
    · rintro ⟨first, hfirst, second, hsecond, hdiffer⟩
      exact ⟨first, hfirst, second, hsecond,
        (HeapView.key?_ne_iff (hkeyed _ hfirst) (hkeyed _ hsecond)).mp hdiffer⟩
    · rintro ⟨first, hfirst, second, hsecond, hdiffer⟩
      exact ⟨first, hfirst, second, hsecond,
        (HeapView.key?_ne_iff (hkeyed _ hfirst) (hkeyed _ hsecond)).mpr hdiffer⟩
  display_singleGroup group hreport := by
    rw [Except.ok.injEq, Report.ofGroups_eq_singleGroup_iff,
      hparts.toList_eq_singleton_iff hkeyed] at hreport
    have hcount : group.count = instances.length := congrArg List.length hreport.2.2
    rw [← hcount]
    rfl
  display_groups other hreport := by
    rw [Except.ok.injEq, Report.ofGroups_eq_groups_iff] at hreport
    rw [← hparts.totalMembers, hreport.1]
    rfl
  outOfMemory_iff := by
    refine iff_of_false ?_ ?_
    · rw [Except.ok.injEq]
      exact Report.ofGroups_ne_outOfMemory groups
    · rintro ⟨context, hcontext⟩
      cases hcontext
  error_iff failure := iff_of_false nofun nofun

/-- The report on a failure is the failure, or says that memory ran out. -/
theorem reflects_reportOf_error (failure : Failure) :
    Report.Reflects heap limit instances (.error failure) (reportOf (.error failure)) where
  noRoot_iff := by simp [reportOf_eq_ok_iff]
  singleGroup_iff group := by simp [reportOf_eq_ok_iff]
  groups_iff groups := by simp [reportOf_eq_ok_iff]
  display_singleGroup group hreport := by simp [reportOf_eq_ok_iff] at hreport
  display_groups groups hreport := by simp [reportOf_eq_ok_iff] at hreport
  outOfMemory_iff := by simp [reportOf_eq_ok_iff]
  error_iff := reportOf_eq_error_iff

/-- What is folded from groups that are the tally of what the instances resolve to, or from a
failure, reflects it. -/
theorem reflects_reportOf
    (htally : ∀ groups, result = .ok groups → Aggregation.tally (.ok .empty)
      (instances.map fun id => (id, heap.resolved limit id)) = .ok groups) :
    Report.Reflects heap limit instances result (reportOf result) := by
  cases result with
  | error failure => exact reflects_reportOf_error failure
  | ok groups =>
      obtain ⟨hparts, hkeyed⟩ := Aggregation.partitions_of_tally (htally groups rfl)
      exact reflects_ofGroups hparts hkeyed

/-! ## Aggregations that end before their runs -/

section Unopened

variable {σ : Type} {host : Host σ} {state : σ} (analyzer : Analyzer) (memory : Memory σ)
  (instances : List InstanceId) (expected : UInt64)

theorem aggregateReserving_of_unprepared {failure : Failure}
    (hprepare : (host.prepare state).1 = .error failure) :
    let run := analyzer.aggregateReserving memory.recorded host.recorded instances expected
      (.start state)
    run.1 = .error failure ∧ run.2.calls = [.prepare (.error failure)] := by
  have hprepared : host.prepare state = (.error failure, (host.prepare state).2) :=
    Prod.ext hprepare rfl
  intro run
  have hrun : run = (.error failure,
      host.note (.start state) (.prepare (.error failure)) (host.prepare state).2) := by
    simp only [run, aggregateReserving, prepare_recorded hprepared]
  rw [hrun]
  exact ⟨rfl, rfl⟩

/-- More instances than can ever be set aside are refused once the host is prepared. -/
theorem aggregateReserving_of_exceeding
    (hparallel : analyzer.settings.parallelAggregation = true)
    (hprepare : (host.prepare state).1 = .ok ()) (hexceeds : 2 ^ 60 ≤ expected.toNat) :
    let run := analyzer.aggregateReserving memory.recorded host.recorded instances expected
      (.start state)
    run.1 = .error (.outOfMemory "collecting instances to aggregate") ∧
      run.2.calls = [.prepare (.ok ())] := by
  have hprepared : host.prepare state = (.ok (), (host.prepare state).2) :=
    Prod.ext hprepare rfl
  intro run
  have hrun : run = (.error (.outOfMemory "collecting instances to aggregate"),
      host.note (.start state) (.prepare (.ok ())) (host.prepare state).2) := by
    simp only [run, aggregateReserving, prepare_recorded hprepared, hparallel, if_true,
      Memory.reserveInstances, reserve_of_le hexceeds]
  rw [hrun]
  exact ⟨rfl, rfl⟩

end Unopened

/-! ## Reports -/

variable {σ : Type} {host : Host σ}

/-- The report on an aggregation is faithful to its result, and running out of memory is a clean
end. On a host that answers from a heap, whatever its sink, token and memory, a report reflects the
groups or the failure that it is folded from. The sink calls are those of a run that is finished,
unless the run was not set up; an aggregation that is not prepared, or a parallel one with more
instances expected than there can be room for, has made no other call than the one to prepare. With
room for that many instances the expected number does not show in a parallel aggregation, nor in any
if the sink takes no notice of the length of a run; and undisturbed, an aggregation comes to what
the heap decides. -/
theorem reports_faithful {heap : HeapView} (hanswers : host.Answers heap) (analyzer : Analyzer)
    (instances : List InstanceId) (expected : UInt64) (state : σ) :
    let limit := analyzer.settings.maxRootDistance
    let parallel := analyzer.settings.parallelAggregation = true
    let run (memory : Memory σ) := analyzer.aggregateReserving memory.recorded host.recorded
      instances expected (.start state)
    Report.Reflects heap limit instances (analyzer.aggregate host instances expected state).1
        (analyzer.analyzeInstances host instances expected state).1 ∧
      (∀ memory, Report.Reflects heap limit instances
        (analyzer.aggregateReserving memory host instances expected state).1
        (analyzer.analyzeInstancesReserving memory host instances expected state).1) ∧
      (∀ memory,
        (run memory).1 = (analyzer.aggregateReserving memory host instances expected state).1 ∧
        ((run memory).2.sinkCalls = [] ∨
          (∃ length failure, (run memory).2.sinkCalls = [.setup length (.error failure)]) ∨
          ∃ length steps, (run memory).2.sinkCalls = progressRun length steps)) ∧
      run .ample = analyzer.aggregate host.recorded instances expected (.start state) ∧
      (∀ memory failure, (host.prepare state).1 = .error failure →
        (run memory).1 = .error failure ∧ (run memory).2.calls = [.prepare (.error failure)]) ∧
      (∀ memory, parallel → (host.prepare state).1 = .ok () → 2 ^ 60 ≤ expected.toNat →
        (run memory).1 = .error (.outOfMemory "collecting instances to aggregate") ∧
        (run memory).2.calls = [.prepare (.ok ())]) ∧
      ((parallel → expected.toNat < 2 ^ 60) →
        (∀ other : UInt64, parallel → other.toNat < 2 ^ 60 →
          analyzer.aggregate host instances expected state =
            analyzer.aggregate host instances other state) ∧
        (∀ related, host.LengthBlind related → related state state → ∀ other : UInt64,
          (parallel → other.toNat < 2 ^ 60) →
          (analyzer.aggregate host instances expected state).1 =
            (analyzer.aggregate host instances other state).1 ∧
          (analyzer.analyzeInstances host instances expected state).1 =
            (analyzer.analyzeInstances host instances other state).1) ∧
        (∀ ready, host.Serves heap ready → (host.prepare state).1 = .ok () →
          ready .outside (host.prepare state).2 →
          (analyzer.aggregate host instances expected state).1 = Aggregation.tally (.ok .empty)
            (instances.map fun id => (id, heap.resolved limit id)))) := by
  intro limit parallel run
  refine ⟨?_, ?_, ?_, ?_, ?_, ?_, fun hexpected => ⟨?_, ?_, ?_⟩⟩
  · exact reflects_reportOf fun groups hgroups => analyzer.aggregate_ok hanswers hgroups
  · intro memory
    exact reflects_reportOf fun groups hgroups => analyzer.aggregateReserving_ok hanswers hgroups
  · intro memory
    exact ⟨(analyzer.aggregateReserving_recorded memory host instances expected state).1,
      (analyzer.aggregateReserving_bracketed memory host instances expected state).shape⟩
  · exact analyzer.aggregateReserving_ample host.recorded instances expected (.start state)
  · intro memory failure hprepare
    exact analyzer.aggregateReserving_of_unprepared memory instances expected hprepare
  · intro memory hparallel hprepare hexceeds
    exact analyzer.aggregateReserving_of_exceeding memory instances expected hparallel hprepare
      hexceeds
  · intro other hparallel hother
    exact analyzer.aggregate_parallel_announced hparallel host instances (hexpected hparallel)
      hother state
  · intro related hblind hrelated other hother
    have hroom : parallel → expected.toNat < 2 ^ 60 ∧ other.toNat < 2 ^ 60 :=
      fun hparallel => ⟨hexpected hparallel, hother hparallel⟩
    have hsame := (analyzer.aggregate_announced hblind instances hroom hrelated).1
    exact ⟨hsame, congrArg reportOf hsame⟩
  · intro ready hserves hprepare hready
    exact analyzer.aggregate_serves hserves instances hexpected hprepare hready

/-- Three instances of one root, two instances of different keys, a memory that has no room for the
index, a host that cannot be prepared, and more instances expected than there can be room for. -/
theorem reports_faithful_sample :
    let host := Monitor.host .sample .plain ⟨true, none, none⟩
    let failing := Monitor.host .sample ⟨some .interrupted, none⟩ ⟨true, none, none⟩
    let parallel : Analyzer := ⟨{ Settings.default with parallelAggregation := true }, by decide⟩
    let crowded : Memory Monitor := ⟨fun bookkeeping monitor => (bookkeeping != .place, monitor)⟩
    let beyond : UInt64 := 1152921504606846976
    host.Answers .sample ∧ failing.Answers .sample ∧
      (default.analyzeInstances host [⟨1⟩, ⟨4⟩, ⟨1⟩] 7 .fresh).1 =
        .ok (.singleGroup ⟨.root ⟨4⟩, #[⟨1⟩, ⟨4⟩, ⟨1⟩]⟩) ∧
      (∃ groups, (parallel.analyzeInstances host [⟨1⟩, ⟨9⟩] 7 .fresh).1 = .ok (.groups groups) ∧
        (Report.groups groups).display =
          groups.size.repr ++ " GC roots (" ++ Nat.repr 2 ++ " instances)") ∧
      (default.analyzeInstancesReserving crowded host [⟨1⟩] 1 .fresh).1 = .ok .outOfMemory ∧
      (default.aggregateReserving crowded.recorded failing.recorded [⟨1⟩] 1
        (.start .fresh)).2.calls = [.prepare (.error .interrupted)] ∧
      (parallel.aggregateReserving crowded.recorded host.recorded [⟨1⟩] beyond
        (.start .fresh)).2.calls = [.prepare (.ok ())] ∧
      (default.aggregate host [⟨1⟩] 7 .fresh).1 = (default.aggregate host [⟨1⟩] 0 .fresh).1 ∧
      (default.aggregate host [⟨1⟩] 7 .fresh).1 =
        Aggregation.tally (.ok .empty) [(⟨1⟩, HeapView.sample.resolved 1000000 ⟨1⟩)] := by
  intro host failing parallel crowded beyond
  have hserves : host.Serves .sample (Monitor.Ready ⟨true, none, none⟩) :=
    Monitor.host_serves .sample rfl rfl rfl
  have hanswers : host.Answers .sample := hserves.toAnswers
  have hfailing : failing.Answers .sample := (Monitor.host_serves .sample rfl rfl rfl).toAnswers
  refine ⟨hanswers, hfailing, ?_, ?_, ?_, ?_, ?_, ?_⟩
  · obtain ⟨hreflects, -⟩ := reports_faithful hanswers default [⟨1⟩, ⟨4⟩, ⟨1⟩] 7 .fresh
    refine (hreflects.singleGroup_iff _).mpr ⟨⟨_, by cbv⟩, by decide, ?_, rfl⟩
    intro id hid
    simp only [List.mem_cons, List.not_mem_nil, or_false] at hid
    rcases hid with rfl | rfl | rfl
    · cbv
    · cbv
    · cbv
  · obtain ⟨hreflects, -⟩ := reports_faithful hanswers parallel [⟨1⟩, ⟨9⟩] 7 .fresh
    have hsome : (parallel.aggregate host [⟨1⟩, ⟨9⟩] 7 .fresh).1.toOption.isSome = true := by
      subst parallel host
      cbv
    cases hresult : (parallel.aggregate host [⟨1⟩, ⟨9⟩] 7 .fresh).1 with
    | error failure =>
        rw [hresult] at hsome
        cases hsome
    | ok groups =>
        rw [hresult] at hreflects
        have hreport := (hreflects.groups_iff groups).mpr
          ⟨rfl, ⟨1⟩, by simp, ⟨9⟩, by simp, by decide⟩
        exact ⟨groups, hreport, hreflects.display_groups groups hreport⟩
  · obtain ⟨-, hreflects, -⟩ := reports_faithful hanswers default [⟨1⟩] 1 .fresh
    exact (hreflects crowded).outOfMemory_iff.mpr ⟨"indexing root groups", by cbv⟩
  · obtain ⟨-, -, -, -, hunprepared, -⟩ := reports_faithful hfailing default [⟨1⟩] 1 .fresh
    exact (hunprepared crowded .interrupted rfl).2
  · obtain ⟨-, -, -, -, -, hexceeds, -⟩ := reports_faithful hanswers parallel [⟨1⟩] beyond .fresh
    have hbeyond : 2 ^ 60 ≤ beyond.toNat := by decide
    exact (hexceeds crowded rfl rfl hbeyond).2
  · obtain ⟨-, -, -, -, -, -, hannounced⟩ := reports_faithful hanswers default [⟨1⟩] 7 .fresh
    have hform : default.settings.parallelAggregation ≠ true := by decide
    obtain ⟨-, hblind, hserved⟩ := hannounced fun hparallel => absurd hparallel hform
    refine ⟨?_, ?_⟩
    · exact (hblind Monitor.Akin (Monitor.host_lengthBlind _ _ _) (Monitor.Akin.refl _) 0
        fun hparallel => absurd hparallel hform).1
    · exact hserved (Monitor.Ready ⟨true, none, none⟩) hserves rfl (Monitor.fresh_ready _)

end Analyzer

end Retention
