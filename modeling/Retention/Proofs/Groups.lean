import Mathlib.Algebra.Order.Ring.Nat
import Retention.Groups

/-!
# Groups as a partition

Groups and their index are two records of one thing. What ties them is that the index gives
the place of a key exactly if the group at that place has the key; so no two groups share a
key, no place is out of range, and the groups alone determine what the index finds. Adding
instances one at a time then keeps each group to the instances of its key, in order.
-/

namespace Retention

theorem eraseDups_concat {α : Type} [DecidableEq α] (xs : List α) (x : α) :
    (xs ++ [x]).eraseDups = if x ∈ xs then xs.eraseDups else xs.eraseDups ++ [x] := by
  rw [List.eraseDups_append, List.cons_removeAll, List.nil_removeAll]
  by_cases hmem : x ∈ xs
  · simp [hmem]
  · simp [hmem, List.eraseDups_cons]

theorem RootKey.distinct_concat (keys : List RootKey) (key : RootKey) :
    distinct (keys ++ [key]) = if key ∈ keys then distinct keys else distinct keys ++ [key] :=
  eraseDups_concat keys key

namespace RootGroup

/-- A group with one more member, the last. -/
def add (group : RootGroup) (id : InstanceId) : RootGroup :=
  { group with members := group.members.push id }

@[simp] theorem key_add (group : RootGroup) (id : InstanceId) : (group.add id).key = group.key :=
  rfl

@[simp] theorem toList_members_add (group : RootGroup) (id : InstanceId) :
    (group.add id).members.toList = group.members.toList ++ [id] :=
  Array.toList_push

@[simp] theorem count_add (group : RootGroup) (id : InstanceId) :
    (group.add id).count = group.count + 1 :=
  Array.size_push id

end RootGroup

namespace RootGroups

variable {partition other : RootGroups} {group : RootGroup} {place : Nat}

/-- The index gives a place for a key exactly if the group at that place has the key. -/
def Indexed (partition : RootGroups) : Prop :=
  ∀ (key : RootKey) (place : Nat), partition.index[key]? = some place ↔
    ∃ group : RootGroup, partition.groups[place]? = some group ∧ group.key = key

theorem empty_indexed : empty.Indexed := by
  intro key place
  simp [empty]

namespace Indexed

/-- A key stands at one place only. -/
theorem place_unique (hindexed : partition.Indexed) {i j : Nat} {a b : RootGroup}
    (ha : partition.groups[i]? = some a) (hb : partition.groups[j]? = some b)
    (hkey : a.key = b.key) : i = j := by
  have hi : partition.index[b.key]? = some i := (hindexed b.key i).mpr ⟨a, ha, hkey⟩
  have hj : partition.index[b.key]? = some j := (hindexed b.key j).mpr ⟨b, hb, rfl⟩
  exact Option.some.inj (hi.symm.trans hj)

theorem keys_nodup (hindexed : partition.Indexed) :
    (partition.groups.toList.map RootGroup.key).Nodup := by
  rw [List.nodup_iff_pairwise_ne, List.pairwise_iff_getElem]
  intro i j hi hj hij heq
  simp only [List.length_map, Array.length_toList] at hi hj
  simp only [List.getElem_map, Array.getElem_toList] at heq
  have hplace := hindexed.place_unique (Array.getElem?_eq_getElem hi)
    (Array.getElem?_eq_getElem hj) heq
  omega

theorem index_eq_none_iff (hindexed : partition.Indexed) (key : RootKey) :
    partition.index[key]? = none ↔ ∀ group ∈ partition.groups, group.key ≠ key := by
  rw [Option.eq_none_iff_forall_ne_some]
  constructor
  · intro hnone group hgroup hkey
    obtain ⟨place, hplace⟩ := Array.mem_iff_getElem?.mp hgroup
    exact hnone place ((hindexed key place).mpr ⟨group, hplace, hkey⟩)
  · intro hnew place hplace
    obtain ⟨group, hgroup, hkey⟩ := (hindexed key place).mp hplace
    exact hnew group (Array.mem_of_getElem? hgroup) hkey

/-- Looking a key up finds the one group that has it. -/
theorem get?_eq_some_iff (hindexed : partition.Indexed) (key : RootKey) (group : RootGroup) :
    partition.get? key = some group ↔ group ∈ partition.groups ∧ group.key = key := by
  unfold get?
  constructor
  · intro hget
    split at hget
    next place hplace =>
      obtain ⟨found, hfound, hkey⟩ := (hindexed key place).mp hplace
      obtain rfl : found = group := Option.some.inj (hfound.symm.trans hget)
      exact ⟨Array.mem_of_getElem? hfound, hkey⟩
    next => cases hget
  · rintro ⟨hgroup, hkey⟩
    obtain ⟨place, hplace⟩ := Array.mem_iff_getElem?.mp hgroup
    simp only [(hindexed key place).mpr ⟨group, hplace, hkey⟩, hplace]

theorem get?_eq_none_iff (hindexed : partition.Indexed) (key : RootKey) :
    partition.get? key = none ↔ ∀ group ∈ partition.groups, group.key ≠ key := by
  rw [Option.eq_none_iff_forall_ne_some]
  simp only [ne_eq, hindexed.get?_eq_some_iff, not_and]

/-- What adding an instance does: to the one group of the key, or to the end. -/
theorem insert_cases (hindexed : partition.Indexed) (key : RootKey) (id : InstanceId) :
    (∃ place group, partition.groups[place]? = some group ∧ group.key = key ∧
        partition.insert key id =
          ⟨partition.groups.modify place (·.add id), partition.index⟩) ∨
      ((∀ group ∈ partition.groups, group.key ≠ key) ∧
        partition.insert key id =
          ⟨partition.groups.push ⟨key, #[id]⟩,
            partition.index.insert key partition.groups.size⟩) := by
  unfold insert
  split
  next place hplace =>
    obtain ⟨group, hgroup, hkey⟩ := (hindexed key place).mp hplace
    exact .inl ⟨place, group, hgroup, hkey, rfl⟩
  next hnone => exact .inr ⟨(hindexed.index_eq_none_iff key).mp hnone, rfl⟩

/-- The groups after adding an instance: those of other keys, and the group of its key. -/
theorem mem_insert (hindexed : partition.Indexed) {key : RootKey} {id : InstanceId}
    (hgroup : group ∈ (partition.insert key id).groups) :
    (group ∈ partition.groups ∧ key ≠ group.key) ∨
      (∃ held ∈ partition.groups, held.key = key ∧ group = held.add id) ∨
      (∀ held ∈ partition.groups, held.key ≠ key) ∧ group = ⟨key, #[id]⟩ := by
  obtain ⟨place, held, hheld, hkey, hinsert⟩ | ⟨hnew, hinsert⟩ := hindexed.insert_cases key id
  · rw [hinsert] at hgroup
    obtain ⟨i, hi⟩ := Array.mem_iff_getElem?.mp hgroup
    rw [Array.getElem?_modify] at hi
    split at hi
    next hplace =>
      rw [← hplace, hheld] at hi
      cases hi
      exact .inr (.inl ⟨held, Array.mem_of_getElem? hheld, hkey, rfl⟩)
    next hplace =>
      refine .inl ⟨Array.mem_of_getElem? hi, fun heq => ?_⟩
      exact hplace (hindexed.place_unique hheld hi (hkey.trans heq))
  · rw [hinsert] at hgroup
    rcases Array.mem_push.mp hgroup with hold | rfl
    · exact .inl ⟨hold, (hnew group hold).symm⟩
    · exact .inr (.inr ⟨hnew, rfl⟩)

theorem insert (hindexed : partition.Indexed) (key : RootKey) (id : InstanceId) :
    (partition.insert key id).Indexed := by
  intro sought place
  obtain ⟨slot, group, hgroup, hkey, hinsert⟩ | ⟨hnew, hinsert⟩ :=
    hindexed.insert_cases key id
  · -- The keys stand where they stood, also that of the group that grows.
    rw [hinsert]
    simp only [hindexed sought place, Array.getElem?_modify]
    split
    next hslot =>
      subst hslot
      simp [hgroup]
    next => exact Iff.rfl
  · rw [hinsert]
    simp only [Std.HashMap.getElem?_insert, Array.getElem?_push, beq_iff_eq]
    by_cases hsought : key = sought
    · -- The key is new, so only the place at the end can hold it.
      subst hsought
      have hold : ∀ group, partition.groups[place]? = some group → group.key ≠ key :=
        fun group hgroup => hnew group (Array.mem_of_getElem? hgroup)
      by_cases hplace : place = partition.groups.size
      · simp [hplace]
      · simp only [if_true, hplace, if_false, Option.some.injEq]
        refine ⟨fun hsize => absurd hsize.symm hplace, ?_⟩
        rintro ⟨group, hgroup, hkey⟩
        exact absurd hkey (hold group hgroup)
    · simp only [hsought, if_false, hindexed sought place]
      by_cases hplace : place = partition.groups.size
      · simp [hplace, hsought]
      · simp only [hplace, if_false]

end Indexed

/-! ## One partition or another -/

/-- Two partitions are the same if they have the same groups and their indexes find the same
places. -/
def Same (partition other : RootGroups) : Prop :=
  partition.groups = other.groups ∧ partition.index.Equiv other.index

/-- Well indexed partitions are the same as soon as their groups are. -/
theorem Indexed.same_iff (hindexed : partition.Indexed) (hother : other.Indexed) :
    partition.Same other ↔ partition.groups = other.groups := by
  refine ⟨And.left, fun hgroups => ⟨hgroups, ?_⟩⟩
  apply Std.HashMap.Equiv.of_forall_getElem?_eq
  intro key
  ext place
  rw [hindexed key place, hother key place, hgroups]

/-! ## Members -/

theorem totalMembers_eq_sum (partition : RootGroups) :
    partition.totalMembers = (partition.groups.toList.map RootGroup.count).sum := by
  rw [List.sum_eq_foldl, List.foldl_map, Array.foldl_toList]
  rfl

theorem Indexed.totalMembers_insert (hindexed : partition.Indexed) (key : RootKey)
    (id : InstanceId) :
    (partition.insert key id).totalMembers = partition.totalMembers + 1 := by
  obtain ⟨place, group, hgroup, -, hinsert⟩ | ⟨-, hinsert⟩ := hindexed.insert_cases key id
  · obtain ⟨hlt, -⟩ := Array.getElem?_eq_some_iff.mp hgroup
    obtain ⟨before, held, after, hsplit, -, hmodify⟩ :=
      List.exists_of_modify (·.add id) (l := partition.groups.toList) (i := place) hlt
    rw [totalMembers_eq_sum, totalMembers_eq_sum, hinsert, Array.toList_modify, hmodify, hsplit]
    simp only [List.map_append, List.map_cons, List.sum_append, List.sum_cons,
      RootGroup.count_add]
    omega
  · simp only [totalMembers_eq_sum, hinsert, Array.toList_push, List.map_append, List.sum_append,
      List.map_cons, List.map_nil, List.sum_cons, List.sum_nil, RootGroup.count]
    rfl

/-- The groups are those of the instances `ids` by their keys: each key once in the order in
which the keys first come up, and under it the instances that have it, in their order. -/
structure Partitions (partition : RootGroups) (key? : InstanceId → Option RootKey)
    (ids : List InstanceId) : Prop where
  indexed : partition.Indexed
  keys : partition.groups.toList.map RootGroup.key = RootKey.distinct (ids.filterMap key?)
  members : ∀ group ∈ partition.groups,
    group.members.toList = ids.filter fun id => key? id = some group.key
  totalMembers : partition.totalMembers = ids.length

namespace Partitions

variable {key? : InstanceId → Option RootKey} {ids : List InstanceId} {key : RootKey}
  {id : InstanceId}

theorem empty (key? : InstanceId → Option RootKey) :
    RootGroups.empty.Partitions key? [] where
  indexed := empty_indexed
  keys := rfl
  members := by simp [RootGroups.empty]
  totalMembers := rfl

theorem exists_group_iff (hparts : partition.Partitions key? ids) (key : RootKey) :
    (∃ group ∈ partition.groups, group.key = key) ↔ ∃ id ∈ ids, key? id = some key := by
  have hmem : key ∈ partition.groups.toList.map RootGroup.key ↔ key ∈ ids.filterMap key? := by
    rw [hparts.keys, RootKey.distinct, List.mem_eraseDups]
  simpa only [List.mem_map, Array.mem_toList_iff, List.mem_filterMap] using hmem

theorem map_key_modify (groups : List RootGroup) (place : Nat) (id : InstanceId) :
    (groups.modify place (·.add id)).map RootGroup.key = groups.map RootGroup.key := by
  apply List.ext_getElem?
  intro i
  rw [List.getElem?_map, List.getElem?_modify, List.getElem?_map]
  cases groups[i]? with
  | none => rfl
  | some group => split <;> rfl

theorem filter_concat_same (hkey : key? id = some key) :
    (ids ++ [id]).filter (fun id => key? id = some key) =
      ids.filter (fun id => key? id = some key) ++ [id] := by
  simp [List.filter_append, hkey]

theorem filter_concat_other {other : RootKey} (hkey : key? id = some key) (hne : key ≠ other) :
    (ids ++ [id]).filter (fun id => key? id = some other) =
      ids.filter (fun id => key? id = some other) := by
  simp [List.filter_append, hkey, hne]

/-- Adding an instance under its key partitions one instance more. -/
theorem insert (hparts : partition.Partitions key? ids) (hkey : key? id = some key) :
    (partition.insert key id).Partitions key? (ids ++ [id]) where
  indexed := hparts.indexed.insert key id
  keys := by
    rw [List.filterMap_append, List.filterMap_cons_some hkey, List.filterMap_nil,
      RootKey.distinct_concat]
    obtain ⟨place, group, hgroup, hheld, hinsert⟩ | ⟨hnew, hinsert⟩ :=
      hparts.indexed.insert_cases key id
    · have hmem := (hparts.exists_group_iff key).mp ⟨group, Array.mem_of_getElem? hgroup, hheld⟩
      rw [if_pos (List.mem_filterMap.mpr hmem), ← hparts.keys, hinsert, Array.toList_modify,
        map_key_modify]
    · have hmem : ¬ ∃ id ∈ ids, key? id = some key := by
        rw [← hparts.exists_group_iff key]
        rintro ⟨group, hgroup, hheld⟩
        exact hnew group hgroup hheld
      rw [if_neg (mt List.mem_filterMap.mp hmem), ← hparts.keys, hinsert, Array.toList_push,
        List.map_append]
      rfl
  members := by
    intro group hgroup
    rcases hparts.indexed.mem_insert hgroup with
      ⟨hold, hne⟩ | ⟨held, hheld, hheldKey, rfl⟩ | ⟨hnew, rfl⟩
    · rw [filter_concat_other hkey hne, hparts.members group hold]
    · rw [RootGroup.toList_members_add, RootGroup.key_add, hheldKey, filter_concat_same hkey,
        hparts.members held hheld, hheldKey]
    · have hnone : ids.filter (fun id => key? id = some key) = [] := by
        rw [List.filter_eq_nil_iff]
        intro id hid heq
        obtain ⟨held, hheld, hheldKey⟩ :=
          (hparts.exists_group_iff key).mpr ⟨id, hid, of_decide_eq_true heq⟩
        exact hnew held hheld hheldKey
      rw [filter_concat_same hkey, hnone]
      rfl
  totalMembers := by
    rw [hparts.indexed.totalMembers_insert, hparts.totalMembers, List.length_append]
    rfl

theorem members_ne_empty (hparts : partition.Partitions key? ids)
    (hgroup : group ∈ partition.groups) : group.members ≠ #[] := by
  intro hempty
  obtain ⟨id, hid, hkey⟩ := (hparts.exists_group_iff group.key).mp ⟨group, hgroup, rfl⟩
  have hmember : id ∈ group.members.toList := by
    rw [hparts.members group hgroup, List.mem_filter]
    exact ⟨hid, decide_eq_true hkey⟩
  rw [hempty] at hmember
  cases hmember

theorem get?_eq_none_iff (hparts : partition.Partitions key? ids) (key : RootKey) :
    partition.get? key = none ↔ ∀ id ∈ ids, key? id ≠ some key := by
  have hexists := hparts.exists_group_iff key
  rw [hparts.indexed.get?_eq_none_iff]
  constructor
  · intro hnew id hid hkey
    obtain ⟨group, hgroup, hheld⟩ := hexists.mpr ⟨id, hid, hkey⟩
    exact hnew group hgroup hheld
  · intro hnone group hgroup hheld
    obtain ⟨id, hid, hkey⟩ := hexists.mp ⟨group, hgroup, hheld⟩
    exact hnone id hid hkey

end Partitions

end RootGroups

end Retention
