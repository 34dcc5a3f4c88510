import Retention.Proofs.Faithfulness
import Retention.Proofs.Tiling

/-!
# Reading groups page by page

Aggregation sorts instances into groups, and paging shows the groups, and the members of each, a
window at a time. Nothing is lost or doubled on the way: the groups come largest first and equally
large ones in the order in which their keys first come up, the members of a group in the order of
aggregation, and all members together are the instances again.
-/

namespace Retention

variable {key? : InstanceId → Option RootKey} {ids : List InstanceId} {key : RootKey}

/-! ## First places -/

/-- The place at which a key first comes up among the instances. -/
def firstPlace (key? : InstanceId → Option RootKey) (ids : List InstanceId) (key : RootKey) : Nat :=
  ids.findIdx fun id => key? id = some key

theorem firstPlace_lt (hkey : key ∈ ids.filterMap key?) : firstPlace key? ids key < ids.length := by
  obtain ⟨id, hid, hkey⟩ := List.mem_filterMap.mp hkey
  exact List.findIdx_lt_length.mpr ⟨id, hid, decide_eq_true hkey⟩

theorem firstPlace_append (hkey : key ∈ ids.filterMap key?) (more : List InstanceId) :
    firstPlace key? (ids ++ more) key = firstPlace key? ids key :=
  List.findIdx_append.trans (if_pos (firstPlace_lt hkey))

theorem length_le_firstPlace (hkey : key ∉ ids.filterMap key?) (more : List InstanceId) :
    ids.length ≤ firstPlace key? (ids ++ more) key := by
  have hnever : ¬ ids.findIdx (fun id => key? id = some key) < ids.length := by
    intro hlt
    obtain ⟨id, hid, hfound⟩ := List.findIdx_lt_length.mp hlt
    exact hkey (List.mem_filterMap.mpr ⟨id, hid, of_decide_eq_true hfound⟩)
  unfold firstPlace
  rw [List.findIdx_append, if_neg hnever]
  exact Nat.le_add_left _ _

/-- Distinct keys stand in the order of the places at which they first come up. -/
theorem RootKey.pairwise_distinct (key? : InstanceId → Option RootKey) (ids : List InstanceId) :
    (distinct (ids.filterMap key?)).Pairwise
      fun a b => firstPlace key? ids a < firstPlace key? ids b := by
  induction ids using List.reverseRecOn with
  | nil => exact List.Pairwise.nil
  | append_singleton ids id ih =>
      have hold : ∀ key ∈ distinct (ids.filterMap key?), key ∈ ids.filterMap key? := by
        intro key hkey
        rwa [distinct, List.mem_eraseDups] at hkey
      have hkept : (distinct (ids.filterMap key?)).Pairwise
          fun a b => firstPlace key? (ids ++ [id]) a < firstPlace key? (ids ++ [id]) b := by
        refine ih.imp_of_mem fun ha hb hlt => ?_
        rwa [firstPlace_append (hold _ ha), firstPlace_append (hold _ hb)]
      rw [List.filterMap_append]
      cases hid : key? id with
      | none => rwa [List.filterMap_cons_none hid, List.filterMap_nil, List.append_nil]
      | some key =>
          rw [List.filterMap_cons_some hid, List.filterMap_nil, distinct_concat]
          by_cases hmem : key ∈ ids.filterMap key?
          · rwa [if_pos hmem]
          · -- A key that is new comes up after all the others.
            rw [if_neg hmem]
            refine List.pairwise_append.mpr ⟨hkept, List.pairwise_singleton _ _, ?_⟩
            intro a ha b hb
            rw [List.mem_singleton.mp hb, firstPlace_append (hold a ha)]
            exact Nat.lt_of_lt_of_le (firstPlace_lt (hold a ha)) (length_le_firstPlace hmem [id])

/-! ## Members -/

/-- Instances sorted by keys that cover them are the instances. -/
theorem flatMap_filter_key_perm {keys : List RootKey} (hnodup : keys.Nodup)
    (hcovered : ∀ id ∈ ids, ∃ key ∈ keys, key? id = some key) :
    (keys.flatMap fun key => ids.filter fun id => key? id = some key).Perm ids := by
  induction keys generalizing ids with
  | nil =>
      cases ids with
      | nil => exact List.Perm.nil
      | cons id rest =>
          obtain ⟨key, hkey, -⟩ := hcovered id List.mem_cons_self
          cases hkey
  | cons key rest ih =>
      obtain ⟨hnew, hnodup⟩ := List.nodup_cons.mp hnodup
      -- The other keys see only the instances that do not have this one.
      have hothers : ∀ other ∈ rest, (ids.filter fun id => key? id = some other) =
          (ids.filter fun id => !decide (key? id = some key)).filter
            fun id => key? id = some other := by
        intro other hother
        rw [List.filter_filter]
        refine List.filter_congr fun id _ => ?_
        by_cases hid : key? id = some other
        · have hne : other ≠ key := fun heq => hnew (heq ▸ hother)
          simp [hid, hne]
        · simp [hid]
      have hleft : ∀ id ∈ ids.filter fun id => !decide (key? id = some key),
          ∃ other ∈ rest, key? id = some other := by
        intro id hid
        obtain ⟨hmem, hother⟩ := List.mem_filter.mp hid
        obtain ⟨held, hheld, hkey⟩ := hcovered id hmem
        refine ⟨held, (List.mem_cons.mp hheld).resolve_left ?_, hkey⟩
        rintro rfl
        simp [hkey] at hother
      rw [List.flatMap_cons, List.flatMap_congr hothers]
      exact ((ih hnodup hleft).append_left _).trans (List.filter_append_perm _ ids)

namespace RootGroups

variable {partition : RootGroups}

/-- The groups stand in the order in which their keys first come up. -/
theorem Partitions.pairwise_firstPlace (hparts : partition.Partitions key? ids) :
    partition.groups.toList.Pairwise
      fun a b => firstPlace key? ids a.key < firstPlace key? ids b.key := by
  have hkeys := RootKey.pairwise_distinct key? ids
  rwa [← hparts.keys, List.pairwise_map] at hkeys

/-- The members of all groups are the instances, if all of these have keys. -/
theorem Partitions.flatMap_members_perm (hparts : partition.Partitions key? ids)
    (hkeyed : ∀ id ∈ ids, ∃ key, key? id = some key) :
    (partition.groups.toList.flatMap fun group => group.members.toList).Perm ids := by
  have hmembers : (partition.groups.toList.flatMap fun group => group.members.toList) =
      (partition.groups.toList.map RootGroup.key).flatMap
        fun key => ids.filter fun id => key? id = some key := by
    rw [List.flatMap_map]
    exact List.flatMap_congr fun group hgroup =>
      hparts.members group (Array.mem_toList_iff.mp hgroup)
  rw [hmembers]
  refine flatMap_filter_key_perm hparts.indexed.keys_nodup fun id hid => ?_
  obtain ⟨key, hkey⟩ := hkeyed id hid
  obtain ⟨group, hgroup, rfl⟩ := (hparts.exists_group_iff key).mpr ⟨id, hid, hkey⟩
  exact ⟨group.key, List.mem_map_of_mem (Array.mem_toList_iff.mpr hgroup), hkey⟩

end RootGroups

/-! ## Pages -/

/-- Groups that are the tally of what instances resolve to partition them, and all resolve. -/
theorem Aggregation.partitions_of_tally {heap : HeapView} {limit : UInt64}
    {partition : RootGroups}
    (htally : tally (.ok .empty) (ids.map fun id => (id, heap.resolved limit id)) =
      .ok partition) :
    partition.Partitions (heap.key? limit) ids ∧
      ∀ id ∈ ids, ∃ key, heap.key? limit id = some key := by
  refine ⟨tally_partitions (RootGroups.Partitions.empty _) htally, fun id hid => ?_⟩
  obtain ⟨key, hkey⟩ := all_ok_of_tally htally _ (List.mem_map_of_mem hid)
  exact ⟨key, congrArg Except.toOption hkey⟩

namespace Analyzer

variable {σ : Type} {host : Host σ} {heap : HeapView} {state : σ} {partition : RootGroups}

/-- Groups that come out of an aggregation partition the instances, all of which resolve. -/
theorem aggregate_partitions (hanswers : host.Answers heap) (analyzer : Analyzer)
    {instances : List InstanceId} {expected : UInt64}
    (hresult : (analyzer.aggregate host instances expected state).1 = .ok partition) :
    partition.Partitions (heap.key? analyzer.settings.maxRootDistance) instances ∧
      ∀ id ∈ instances, ∃ key, heap.key? analyzer.settings.maxRootDistance id = some key :=
  Aggregation.partitions_of_tally (analyzer.aggregate_ok hanswers hresult)

/-- Groups are read largest first, and among equally large ones in the order in which their keys
first come up. -/
theorem pairwise_read_groupPager {key? : InstanceId → Option RootKey} {ids : List InstanceId}
    (analyzer : Analyzer) (hparts : partition.Partitions key? ids) :
    (analyzer.groupPager partition).read.Pairwise fun a b => b.count < a.count ∨
      a.count = b.count ∧ firstPlace key? ids a.key < firstPlace key? ids b.key := by
  have hcomparison : (analyzer.groupPager partition).comparison =
      some fun a b => compare b.count a.count := rfl
  have hle : ∀ a b : RootGroup, compare b.count a.count ≠ .gt ↔ b.count ≤ a.count :=
    fun _ _ => Nat.compare_ne_gt
  have htrans : ∀ a b c : RootGroup, compare b.count a.count ≠ .gt →
      compare c.count b.count ≠ .gt → compare c.count a.count ≠ .gt := by
    intro a b c hab hbc
    rw [hle] at hab hbc ⊢
    exact Nat.le_trans hbc hab
  have htotal : ∀ a b : RootGroup, compare b.count a.count ≠ .gt ∨
      compare a.count b.count ≠ .gt := by
    intro a b
    rw [hle, hle]
    exact Nat.le_total _ _
  rw [Paging.Pager.read_eq_arranged]
  refine (Paging.Pager.pairwise_arranged hcomparison htrans htotal
    hparts.pairwise_firstPlace).imp ?_
  rintro a b ⟨hlarger, hearlier⟩
  rw [hle] at hlarger hearlier
  rcases Nat.lt_or_eq_of_le hlarger with hlt | heq
  · exact .inl hlt
  · exact .inr ⟨heq.symm, hearlier (Nat.le_of_eq heq.symm)⟩

theorem read_groupPager_perm (analyzer : Analyzer) (partition : RootGroups) :
    (analyzer.groupPager partition).read.Perm partition.groups.toList := by
  rw [Paging.Pager.read_eq_arranged]
  exact List.mergeSort_perm _ _

theorem read_memberPager (analyzer : Analyzer) (group : RootGroup) :
    (analyzer.memberPager group).read = group.members.toList :=
  Paging.Pager.read_eq_arranged _

/-- Nothing is lost or doubled between aggregation and paging. Read window by window, the groups of
an aggregation come each once, largest first and equally large ones in the order in which their keys
first come up; the members of a group are the instances that resolve to its key, in order; all
members together are the instances, and the counts add up to their number. -/
theorem reading_recovers_instances (hanswers : host.Answers heap) (analyzer : Analyzer)
    {instances : List InstanceId} {expected : UInt64}
    (hresult : (analyzer.aggregate host instances expected state).1 = .ok partition) :
    let key? := heap.key? analyzer.settings.maxRootDistance
    let groups := (analyzer.groupPager partition).read
    groups.Perm partition.groups.toList ∧
      (groups.Pairwise fun a b => b.count < a.count ∨
        a.count = b.count ∧ firstPlace key? instances a.key < firstPlace key? instances b.key) ∧
      (∀ group ∈ groups, (analyzer.memberPager group).read =
        instances.filter fun id => key? id = some group.key) ∧
      (groups.flatMap fun group => (analyzer.memberPager group).read).Perm instances ∧
      (groups.map RootGroup.count).sum = instances.length := by
  intro key? groups
  obtain ⟨hparts, hkeyed⟩ := analyzer.aggregate_partitions hanswers hresult
  have hgroups := analyzer.read_groupPager_perm partition
  refine ⟨hgroups, analyzer.pairwise_read_groupPager hparts, fun group hgroup => ?_, ?_, ?_⟩
  · rw [read_memberPager]
    exact hparts.members group (Array.mem_toList_iff.mp (hgroups.mem_iff.mp hgroup))
  · simp only [read_memberPager]
    exact (hgroups.flatMap_right _).trans (hparts.flatMap_members_perm hkeyed)
  · rw [(hgroups.map RootGroup.count).sum_eq, ← RootGroups.totalMembers_eq_sum,
      hparts.totalMembers]

/-- Five instances of two groups, on pages of one item each. -/
theorem reading_recovers_instances_sample :
    let analyzer : Analyzer := ⟨{ Settings.default with maxPageNodes := 1 }, by decide⟩
    let instances : List InstanceId := [⟨9⟩, ⟨1⟩, ⟨8⟩, ⟨2⟩, ⟨4⟩]
    let host := Host.quiet .sample
    host.Answers .sample ∧
      ∃ partition, (analyzer.aggregate host instances 5 ()).1 = .ok partition ∧
        ((analyzer.groupPager partition).read.flatMap fun group =>
          (analyzer.memberPager group).read).Perm instances ∧
        ((analyzer.groupPager partition).read.map RootGroup.count).sum = 5 := by
  intro analyzer instances host
  have hanswers : host.Answers .sample := (Host.quiet_serves .sample).toAnswers
  have hsome : (analyzer.aggregate host instances 5 ()).1.toOption.isSome = true := by
    subst analyzer instances host
    cbv
  refine ⟨hanswers, ?_⟩
  cases hresult : (analyzer.aggregate host instances 5 ()).1 with
  | error failure =>
      rw [hresult] at hsome
      cases hsome
  | ok partition =>
      obtain ⟨-, -, -, hmembers, hcount⟩ := reading_recovers_instances hanswers analyzer hresult
      exact ⟨partition, rfl, hmembers, hcount⟩

end Analyzer

end Retention
