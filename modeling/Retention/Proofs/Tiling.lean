import Mathlib.Data.List.Basic
import Retention.Paging

/-!
# Windows tile a collection

The windows of a pager are stretches of one page each, every one beginning where the one before it
ends. Read in order they give the whole collection in presentation order: that of the collection
itself, or a stable sort of it.
-/

namespace Retention.Paging.Pager

variable {α : Type}

/-- The items met by resolving the windows of a pager one after another. -/
def read (pager : Pager α) : List α :=
  pager.windows.flatMap fun window => (pager.window window).items

theorem length_arranged (pager : Pager α) : pager.arranged.length = pager.size := by
  unfold arranged size
  split
  · rfl
  · exact List.length_mergeSort _

/-- A window holds one page of the arrangement, or as much of one as is left. -/
theorem items_window (pager : Pager α) (number : Nat) :
    (pager.window ⟨number * pager.pageSize,
        min (number * pager.pageSize + pager.pageSize) pager.size, pager.noun⟩).items =
      (pager.arranged.drop (number * pager.pageSize)).take pager.pageSize := by
  have hlength := pager.length_arranged
  simp only [window, page, Window.length]
  by_cases hwithin : number * pager.pageSize ≤ pager.size
  · rw [Nat.min_eq_left hwithin, List.take_eq_take_iff, List.length_drop, hlength]
    omega
  · -- Past the end there is nothing left to take.
    rw [List.drop_eq_nil_of_le (by omega), List.drop_eq_nil_of_le (by omega), List.take_nil,
      List.take_nil]

theorem read_first (pager : Pager α) (count : Nat) :
    ((List.range count).flatMap fun number =>
        (pager.arranged.drop (number * pager.pageSize)).take pager.pageSize) =
      pager.arranged.take (count * pager.pageSize) := by
  induction count with
  | zero => rw [Nat.zero_mul, List.take_zero, List.range_zero, List.flatMap_nil]
  | succ count ih =>
      rw [List.range_succ, List.flatMap_append, ih, List.flatMap_singleton, Nat.succ_mul,
        List.take_add]

/-- Read through its windows, a pager shows every item once, in presentation order. -/
theorem read_eq_arranged (pager : Pager α) : pager.read = pager.arranged := by
  have hcovered : pager.size ≤
      (pager.size + pager.pageSize - 1) / pager.pageSize * pager.pageSize := by
    have hdivision := Nat.div_add_mod (pager.size + pager.pageSize - 1) pager.pageSize
    have hrest := Nat.mod_lt (pager.size + pager.pageSize - 1) pager.pageSize_pos
    rw [Nat.mul_comm] at hdivision
    omega
  unfold read windows
  simp only [List.flatMap_map, items_window, read_first]
  exact List.take_of_length_le (pager.length_arranged ▸ hcovered)

/-! ## Stability -/

section Sorted

variable {pager : Pager α} {comparison : α → α → Ordering}

/-- The items that compare equal to one of them. -/
def tied (comparison : α → α → Ordering) (item other : α) : Bool :=
  comparison item other != .gt && comparison other item != .gt

variable (hcomparison : pager.comparison = some comparison)
  (htrans : ∀ a b c, comparison a b ≠ .gt → comparison b c ≠ .gt → comparison a c ≠ .gt)
  (htotal : ∀ a b, comparison a b ≠ .gt ∨ comparison b a ≠ .gt)

include hcomparison htrans htotal

/-- Items that compare equal stand in the arrangement as they stand in the collection. -/
theorem filter_tied_arranged (item : α) :
    pager.arranged.filter (tied comparison item) = pager.items.filter (tied comparison item) := by
  simp only [arranged, hcomparison]
  have htied : (pager.items.filter (tied comparison item)).Pairwise
      fun a b => (comparison a b != .gt) = true := by
    rw [List.pairwise_filter]
    refine List.pairwise_of_forall fun a b ha hb => ?_
    simp only [tied, Bool.and_eq_true, bne_iff_ne] at ha hb ⊢
    exact htrans a item b ha.2 hb.1
  have hsublist := List.sublist_mergeSort (by simpa only [bne_iff_ne] using htrans)
    (by simpa only [Bool.or_eq_true, bne_iff_ne] using htotal) htied List.filter_sublist
  have hfiltered := hsublist.filter (tied comparison item)
  rw [List.filter_filter] at hfiltered
  simp only [Bool.and_self] at hfiltered
  -- The tied items come one after another in both, and there are as many of them in both.
  refine (hfiltered.eq_of_length ?_).symm
  exact ((List.mergeSort_perm _ _).filter _).length_eq.symm

/-- An arrangement is sorted, and keeps an order of the items among those that compare equal. -/
theorem pairwise_arranged {earlier : α → α → Prop} (hordered : pager.items.Pairwise earlier) :
    pager.arranged.Pairwise fun a b =>
      comparison a b ≠ .gt ∧ (comparison b a ≠ .gt → earlier a b) := by
  rw [List.pairwise_iff_forall_sublist]
  intro a b hpair
  have hle : comparison a b ≠ .gt := by
    have hsorted : (pager.items.mergeSort fun a b => comparison a b != .gt).Pairwise
        fun a b => (comparison a b != .gt) = true :=
      List.pairwise_mergeSort (by simpa only [bne_iff_ne] using htrans)
        (by simpa only [Bool.or_eq_true, bne_iff_ne] using htotal) pager.items
    simp only [arranged, hcomparison] at hpair
    exact bne_iff_ne.mp (List.pairwise_iff_forall_sublist.mp hsorted hpair)
  refine ⟨hle, fun hback => ?_⟩
  have hself : comparison a a ≠ .gt := (htotal a a).elim id id
  have htied := hpair.filter (tied comparison a)
  rw [filter_tied_arranged hcomparison htrans htotal, List.filter_cons_of_pos (by simpa [tied]),
    List.filter_cons_of_pos (by simpa [tied] using ⟨hle, hback⟩), List.filter_nil] at htied
  exact List.pairwise_iff_forall_sublist.mp hordered (htied.trans List.filter_sublist)

end Sorted

end Retention.Paging.Pager
