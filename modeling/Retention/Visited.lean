import Retention.Instance
import Std.Data.HashSet

/-!
# Visited instances

The set of instances a walk has come through. Identities are 64-bit numbers, so the set
holds at most `UInt64.size` of them, and the room left in it bounds any walk that never
enters an instance twice.
-/

namespace Retention

/-- A list of different numbers below `bound` is not longer than `bound`. -/
theorem length_le_of_nodup_of_lt {numbers : List Nat} {bound : Nat}
    (hnodup : numbers.Nodup) (hlt : ∀ n ∈ numbers, n < bound) :
    numbers.length ≤ bound := by
  induction bound generalizing numbers with
  | zero =>
      cases numbers with
      | nil => exact Nat.le_refl 0
      | cons n rest => exact absurd (hlt n List.mem_cons_self) (Nat.not_lt_zero n)
  | succ bound ih =>
      have hshorter : (numbers.erase bound).length ≤ bound := by
        refine ih (hnodup.erase bound) ?_
        intro n hn
        obtain ⟨hne, hmem⟩ := (List.Nodup.mem_erase_iff hnodup).mp hn
        have := hlt n hmem
        omega
      rw [List.length_erase] at hshorter
      split at hshorter <;> omega

/-- The instances a walk has come through. -/
abbrev Visited : Type :=
  Std.HashSet InstanceId

namespace Visited

theorem size_le (visited : Visited) : visited.size ≤ UInt64.size := by
  rw [← Std.HashSet.length_toList]
  have hdistinct := visited.distinct_toList
  have hnodup : (visited.toList.map fun id => id.raw.toNat).Nodup := by
    rw [List.Nodup, List.pairwise_map]
    refine hdistinct.imp ?_
    intro a b hne hraw
    have hab : a = b := InstanceId.raw_injective (UInt64.toNat_inj.mp hraw)
    simp [hab] at hne
  have hlt : ∀ n ∈ visited.toList.map fun id => id.raw.toNat, n < UInt64.size := by
    intro n hn
    obtain ⟨id, _, rfl⟩ := List.mem_map.mp hn
    exact id.toNat_lt
  have hbound := length_le_of_nodup_of_lt hnodup hlt
  rwa [List.length_map] at hbound

/-- How many instances the walk could still come through. -/
def room (visited : Visited) : Nat :=
  UInt64.size - visited.size

theorem room_insert_lt {visited : Visited} {id : InstanceId}
    (hfresh : visited.contains id = false) :
    room (visited.insert id) < room visited := by
  have hsize : (visited.insert id).size = visited.size + 1 := by
    rw [Std.HashSet.size_insert]
    simp [← Std.HashSet.contains_iff_mem, hfresh]
  have hle := size_le (visited.insert id)
  unfold room
  omega

end Visited

end Retention
