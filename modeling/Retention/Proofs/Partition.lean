import Retention.Proofs.Groups
import Retention.Proofs.Resolution
import Retention.Proofs.Tally

/-!
# Aggregation as a partition

On a host that serves a heap a visit comes to what its instance resolves to, whichever visits
came before it. So sequential aggregation fails with the first instance that does not resolve,
and otherwise partitions the instances by the keys that they resolve to.
-/

namespace Retention

/-- The key that an instance of a heap resolves to, if it resolves within `limit` hops. -/
def HeapView.key? (heap : HeapView) (limit : UInt64) (id : InstanceId) : Option RootKey :=
  (heap.resolved limit id).toOption

namespace Aggregation

variable {σ : Type} {host : Host σ} {heap : HeapView} {ready : Phase → σ → Prop} {state : σ}
  {limit : UInt64} {instances : List InstanceId} {groups found : RootGroups}

/-! ## Served visits -/

theorem visit_serves (hserves : host.Serves heap ready) (hready : ready .inside state)
    (limit : UInt64) (id : InstanceId) :
    ∃ later, visit host limit id state = (heap.resolved limit id, later) ∧
      ready .inside later := by
  obtain ⟨resolved, hresolve, hresolved⟩ :=
    Resolution.resolve_serves hserves hready limit id
  rw [visit, hserves.not_cancelled _ _ hready, hresolve]
  cases heap.resolved limit id with
  | error failure => exact ⟨resolved, rfl, hresolved⟩
  | ok key =>
      obtain ⟨later, hstep, hlater⟩ := hserves.step_accepted resolved hresolved
      simp only [hstep]
      exact ⟨later, rfl, hlater⟩

theorem visitAll_serves (hserves : host.Serves heap ready) (hready : ready .inside state)
    (limit : UInt64) (instances : List InstanceId) :
    ∃ later, visitAll host limit instances state =
      (instances.map fun id => (id, heap.resolved limit id), later) ∧ ready .inside later := by
  induction instances generalizing state with
  | nil => exact ⟨state, rfl, hready⟩
  | cons id rest ih =>
      obtain ⟨middle, hvisit, hmiddle⟩ := visit_serves hserves hready limit id
      obtain ⟨later, hrest, hlater⟩ := ih hmiddle
      refine ⟨later, ?_, hlater⟩
      rw [visitAll, hvisit]
      simp only [hrest, List.map_cons]

/-- Undisturbed, sequential aggregation comes to the tally of what its instances resolve to. -/
theorem sequential_serves (hserves : host.Serves heap ready) (hready : ready .outside state)
    (limit : UInt64) (instances : List InstanceId) (expected : UInt64) :
    (sequential host limit instances expected state).1 =
      tally (.ok .empty) (instances.map fun id => (id, heap.resolved limit id)) := by
  obtain ⟨opened, hsetup, hopened⟩ := hserves.setup_accepted state (some expected) hready
  obtain ⟨later, hvisits, hlater⟩ := visitAll_serves hserves hopened limit instances
  simp only [sequential, Host.duringRun, hsetup, gather_fst, hvisits]
  exact concludeGroups_of_not_cancelled _ (hserves.not_cancelled _ _ hlater)

/-! ## Groups -/

theorem tally_partitions {before : List InstanceId}
    (hparts : groups.Partitions (heap.key? limit) before)
    (htally : tally (.ok groups) (instances.map fun id => (id, heap.resolved limit id)) =
      .ok found) :
    found.Partitions (heap.key? limit) (before ++ instances) := by
  -- The invariant is about the instances that stand before those still to be added.
  induction instances generalizing before groups with
  | nil =>
      cases htally
      rwa [List.append_nil]
  | cons id rest ih =>
      cases hresolved : heap.resolved limit id with
      | error failure =>
          rw [List.map_cons, hresolved, tally_cons_error] at htally
          cases htally
      | ok key =>
          have hkey : heap.key? limit id = some key := by
            rw [HeapView.key?, hresolved]
            rfl
          rw [List.map_cons, hresolved, tally_cons_ok] at htally
          have hall := ih (hparts.insert hkey) htally
          rwa [List.append_assoc] at hall

/-- Whatever the host does, groups that come out of a tally are well indexed. -/
theorem tally_indexed {visits : List (InstanceId × Except Failure RootKey)}
    (hindexed : groups.Indexed) (htally : tally (.ok groups) visits = .ok found) :
    found.Indexed := by
  induction visits generalizing groups with
  | nil =>
      cases htally
      exact hindexed
  | cons visit visits ih =>
      obtain ⟨id, result⟩ := visit
      cases result with
      | error failure =>
          rw [tally_cons_error] at htally
          cases htally
      | ok key => exact ih (hindexed.insert key id) htally

theorem sequential_indexed {expected : UInt64}
    (hresult : (sequential host limit instances expected state).1 = .ok found) :
    found.Indexed := by
  unfold sequential Host.duringRun at hresult
  split at hresult
  next => cases hresult
  next opened _ =>
    simp only [gather_fst] at hresult
    exact tally_indexed RootGroups.empty_indexed ((concludeGroups_eq_ok_iff _ _).mp hresult).1

theorem failsFirst_map_iff {resolved : InstanceId → Except Failure RootKey} :
    (∃ failure id, FailsFirst (instances.map fun id => (id, resolved id)) id failure) ↔
      ∃ id ∈ instances, ∃ failure, resolved id = .error failure := by
  constructor
  · rintro ⟨failure, id, before, after, hsplit, -⟩
    have hmem : (id, Except.error failure) ∈ instances.map fun id => (id, resolved id) := by
      rw [hsplit]
      exact List.mem_append_right _ List.mem_cons_self
    obtain ⟨visited, hvisited, heq⟩ := List.mem_map.mp hmem
    exact ⟨visited, hvisited, failure, congrArg Prod.snd heq⟩
  · rintro ⟨id, hid, failure, hfailure⟩
    rcases all_ok_or_failsFirst (instances.map fun id => (id, resolved id)) with hok | hfails
    · obtain ⟨key, hkey⟩ := hok _ (List.mem_map_of_mem hid)
      rw [hfailure] at hkey
      cases hkey
    · obtain ⟨first, failure, hfails⟩ := hfails
      exact ⟨failure, first, hfails⟩

/-- Undisturbed, sequential aggregation is the exact ordered partition by resolved root. It
fails exactly if an instance does not resolve, with the failure of the first one; otherwise
its groups have the distinct keys in the order in which they first come up, each with the
instances that resolve to it, and looking any key up finds its one group if there is one. Two
results of whatever runs are the same as soon as their groups are. -/
theorem sequential_partitions (hserves : host.Serves heap ready)
    (hready : ready .outside state) (limit : UInt64) (instances : List InstanceId)
    (expected : UInt64) :
    let result := (sequential host limit instances expected state).1
    (∀ id, (Resolution.resolve host limit id state).1 = heap.resolved limit id) ∧
      ((∃ failure, result = .error failure) ↔
        ∃ id ∈ instances, ∃ failure, heap.resolved limit id = .error failure) ∧
      (∀ failure, result = .error failure ↔
        ∃ id, FailsFirst (instances.map fun id => (id, heap.resolved limit id)) id failure) ∧
      ∀ groups, result = .ok groups →
        groups.Partitions (heap.key? limit) instances ∧
        (groups.groups.toList.map RootGroup.key).Nodup ∧
        (∀ group ∈ groups.groups, group.members ≠ #[]) ∧
        (∀ key group, groups.get? key = some group ↔
          group ∈ groups.groups ∧ group.key = key) ∧
        (∀ key, groups.get? key = none ↔ ∀ id ∈ instances, heap.key? limit id ≠ some key) ∧
        ∀ {τ : Type} (other : Host τ) budget ids total begun found,
          (sequential other budget ids total begun).1 = .ok found →
            (groups.Same found ↔ groups.groups = found.groups) := by
  intro result
  have hresult : result =
      tally (.ok .empty) (instances.map fun id => (id, heap.resolved limit id)) :=
    sequential_serves hserves hready limit instances expected
  refine ⟨fun id => ?_, ?_, fun failure => ?_, fun groups hok => ?_⟩
  · obtain ⟨later, hresolve, _⟩ := Resolution.resolve_serves hserves hready limit id
    rw [hresolve]
  · simp only [hresult, tally_eq_error_iff]
    exact failsFirst_map_iff
  · rw [hresult, tally_eq_error_iff]
  · have hparts : groups.Partitions (heap.key? limit) instances :=
      tally_partitions (RootGroups.Partitions.empty _) (hresult.symm.trans hok)
    refine ⟨hparts, hparts.indexed.keys_nodup, fun _ => hparts.members_ne_empty,
      hparts.indexed.get?_eq_some_iff, hparts.get?_eq_none_iff, ?_⟩
    intro τ other budget ids total begun found hfound
    exact hparts.indexed.same_iff (sequential_indexed hfound)

/-- Three hops are enough for all instances of the sample heap but those that circle. -/
theorem sequential_partitions_sample :
    let sink : SinkPlan := ⟨true, none, none⟩
    let host := Monitor.host .sample .plain sink
    host.Serves .sample (Monitor.Ready sink) ∧ Monitor.Ready sink .outside .fresh ∧
      (∃ groups, (sequential host 3 [⟨1⟩, ⟨9⟩, ⟨4⟩, ⟨8⟩, ⟨1⟩] 5 .fresh).1 = .ok groups ∧
        groups.groups.toList.map RootGroup.key = [.root ⟨4⟩, .unreachable] ∧
        groups.totalMembers = 5 ∧ groups.get? (.root ⟨3⟩) = none) ∧
      (sequential host 3 [⟨8⟩, ⟨5⟩, ⟨1⟩] 3 .fresh).1 =
        .error (.inconsistent (.chainTooLong ⟨5⟩ 3)) := by
  intro sink host
  have hserves : host.Serves .sample (Monitor.Ready sink) :=
    Monitor.host_serves .sample rfl rfl rfl
  have hready : Monitor.Ready sink .outside .fresh := Monitor.fresh_ready sink
  refine ⟨hserves, hready, ?_, ?_⟩
  · obtain ⟨_, hfails, _, hgroups⟩ :=
      sequential_partitions hserves hready 3 [⟨1⟩, ⟨9⟩, ⟨4⟩, ⟨8⟩, ⟨1⟩] 5
    cases hresult : (sequential host 3 [⟨1⟩, ⟨9⟩, ⟨4⟩, ⟨8⟩, ⟨1⟩] 5 .fresh).1 with
    | error failure =>
        obtain ⟨id, hid, failure, hfailure⟩ := hfails.mp ⟨failure, hresult⟩
        have hresolves : ∀ id ∈ ([⟨1⟩, ⟨9⟩, ⟨4⟩, ⟨8⟩, ⟨1⟩] : List InstanceId),
            (HeapView.key? .sample 3 id).isSome := by decide
        have hsome := hresolves id hid
        rw [HeapView.key?, hfailure] at hsome
        cases hsome
    | ok groups =>
        obtain ⟨hparts, _, _, _, hnone, _⟩ := hgroups groups hresult
        refine ⟨groups, rfl, ?_, hparts.totalMembers, (hnone (.root ⟨3⟩)).mpr (by decide)⟩
        rw [hparts.keys]
        decide
  · obtain ⟨_, _, hfirst, _⟩ := sequential_partitions hserves hready 3 [⟨8⟩, ⟨5⟩, ⟨1⟩] 3
    refine (hfirst _).mpr ⟨⟨5⟩, [(⟨8⟩, .ok .unreachable)], [(⟨1⟩, .ok (.root ⟨4⟩))], rfl, ?_⟩
    simp

end Aggregation

end Retention
