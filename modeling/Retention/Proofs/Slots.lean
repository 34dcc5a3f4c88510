import Mathlib.Data.List.FinRange
import Mathlib.Data.List.Induction
import Retention.Paging.Slots
import Retention.Proofs.Tiling

/-!
# Pagers in place answer as pagers do

A pager in place keeps a pager if it holds the same collection under the same settings, and has
worked out no order but the one of its own comparison. Declaring something keeps it so, and every
request is answered as the pager answers it, however often requests are made. No sum overflows on
the way as long as the collection has less than half as many items as there are words: a window
starts at the beginning, or at least one page away from it.
-/

namespace Retention.Paging

open Word

variable {α : Type}

/-! ## Positions -/

theorem stretch?_of_le {items : List α} {start stop : UInt64} (hle : start.toNat ≤ stop.toNat)
    (hwithin : stop.toNat ≤ items.length) :
    stretch? items start stop = some ((items.take stop.toNat).drop start.toNat) :=
  if_pos ⟨UInt64.le_iff_toNat_le.mpr hle, hwithin⟩

theorem mapM_eq_some_map {β : Type} {xs : List α} {f : α → Option β} {g : α → β}
    (hsome : ∀ x ∈ xs, f x = some (g x)) : xs.mapM f = some (xs.map g) := by
  induction xs with
  | nil => rfl
  | cons x xs ih =>
      have htail : xs.mapM f = some (xs.map g) := by
        apply ih
        intro y hy
        exact hsome y (List.mem_cons_of_mem _ hy)
      simp [hsome x List.mem_cons_self, htail]

/-- A stretch cut down to what a list has is a slice of the list. -/
theorem stretch?_clamped {items : List α} {start stop : UInt64} {size : Nat}
    (hstart : start.toNat ≤ items.length)
    (hstop : stop.toNat = min (start.toNat + size) items.length) :
    stretch? items start stop = some ((items.drop start.toNat).take size) := by
  rw [stretch?_of_le (by omega) (by omega), hstop, List.drop_take]
  congr 1
  rw [List.take_eq_take_iff, List.length_drop]
  omega

section Positions

variable {total step start : UInt64}

theorem positions_of_le (hle : total ≤ start) : positions total step start = [] := by
  rw [positions, if_neg]
  rintro ⟨hlt, -⟩
  exact UInt64.not_lt.mpr hle hlt

theorem positions_of_lt (hlt : start < total) (hstep : 0 < step)
    (hfits : start.toNat + step.toNat < UInt64.size) :
    positions total step start = start :: positions total step (start + step) := by
  rw [positions, if_pos ⟨hlt, hstep⟩]
  split
  next next hsum =>
    rw [sum?_of_lt hfits] at hsum
    cases hsum
    rfl
  next hsum =>
    rw [sum?_of_lt hfits] at hsum
    cases hsum

/-- Below half of the words a step forward fits: either it is the first one, or it is no longer than
the way that has been covered. -/
theorem add_step_lt {number : Nat} (htotal : total.toNat < UInt64.size / 2)
    (hlt : start.toNat < total.toNat) (hstart : start.toNat = number * step.toNat) :
    start.toNat + step.toNat < UInt64.size := by
  have hstep := step.toNat_lt_size
  cases number with
  | zero =>
      rw [Nat.zero_mul] at hstart
      omega
  | succ number =>
      have hcovered : step.toNat ≤ start.toNat := by
        rw [hstart]
        exact Nat.le_mul_of_pos_left _ (Nat.succ_pos number)
      omega

/-- Stepping through the positions below `total` meets the multiples of `step`. -/
theorem map_toNat_positions (htotal : total.toNat < UInt64.size / 2) (hstep : 0 < step)
    {number count : Nat} (hstart : start.toNat = number * step.toNat)
    (hcount : total.toNat ≤ (number + count) * step.toNat)
    (hneeded : ∀ fewer < count, (number + fewer) * step.toNat < total.toNat) :
    (positions total step start).map UInt64.toNat =
      (List.range' number count).map (· * step.toNat) := by
  induction count generalizing number start with
  | zero =>
      have hle : total ≤ start := by
        rw [UInt64.le_iff_toNat_le, hstart]
        exact hcount
      rw [positions_of_le hle]
      rfl
  | succ count ih =>
      have hlt : start.toNat < total.toNat := by
        rw [hstart]
        exact hneeded 0 (Nat.succ_pos count)
      have hfits := add_step_lt htotal hlt hstart
      have hnext : (start + step).toNat = (number + 1) * step.toNat := by
        rw [toNat_of_sum? (sum?_of_lt hfits), hstart, Nat.succ_mul]
      rw [positions_of_lt (UInt64.lt_iff_toNat_lt.mpr hlt) hstep hfits, List.range'_succ,
        List.map_cons, List.map_cons, hstart]
      congr 1
      apply ih hnext
      · rwa [Nat.add_right_comm number 1 count, Nat.add_assoc number count 1]
      · intro fewer hfewer
        rw [Nat.add_right_comm number 1 fewer, Nat.add_assoc number fewer 1]
        exact hneeded (fewer + 1) (Nat.succ_lt_succ hfewer)

end Positions

/-! ## Slots -/

/-- The sorted slots hold the sorted items. -/
theorem map_sortedSlots (comparison : α → α → Ordering) (items : List α) :
    (sortedSlots comparison items).map items.get =
      items.mergeSort fun a b => comparison a b != .gt := by
  unfold sortedSlots
  have hsorted := List.map_mergeSort (f := items.get)
    (r := fun a b => comparison (items.get a) (items.get b) != .gt)
    (s := fun a b => comparison a b != .gt) (l := List.finRange items.length) fun _ _ _ _ => rfl
  rw [hsorted, List.map_get_finRange]

namespace Pager

/-- A pager has the windows that begin before its end. -/
theorem lt_length_windows {pager : Pager α} {number : Nat} :
    number < pager.windows.length ↔ number * pager.pageSize < pager.size := by
  have hpositive := pager.pageSize_pos
  unfold windows
  rw [List.length_map, List.length_range, Nat.lt_div_iff_mul_lt hpositive]
  omega

theorem windows_eq_map_starts (pager : Pager α) :
    pager.windows = ((List.range pager.windows.length).map (· * pager.pageSize)).map fun start =>
      ⟨start, min (start + pager.pageSize) pager.size, pager.noun⟩ := by
  unfold windows
  rw [List.length_map, List.length_range, List.map_map]
  rfl

end Pager

namespace SlotPager

/-- A pager in place holds what a pager does, and an order only if it is that of its comparison. -/
structure Keeps (slots : SlotPager α) (pager : Pager α) : Prop where
  items : slots.items = pager.items
  noun : slots.noun = pager.noun
  comparison : slots.comparison = pager.comparison
  order : ∀ order, slots.order = some order → ∃ comparison,
    slots.comparison = some comparison ∧ order = sortedSlots comparison slots.items
  pageSize : slots.pageSize.toNat = pager.pageSize
  overflow : slots.overflow = pager.overflow
  /-- There are words to spare. -/
  fits : slots.items.length < UInt64.size / 2

namespace Keeps

variable {slots : SlotPager α} {pager : Pager α}

theorem size (hkeeps : slots.Keeps pager) : slots.size.toNat = pager.size := by
  have hfits := hkeeps.fits
  unfold SlotPager.size Pager.size
  rw [UInt64.toNat_ofNat_of_lt' (by omega), hkeeps.items]

theorem fits_words (hkeeps : slots.Keeps pager) : pager.size < UInt64.size / 2 := by
  unfold Pager.size
  rw [← hkeeps.items]
  exact hkeeps.fits

theorem pageSize_pos (hkeeps : slots.Keeps pager) : 0 < slots.pageSize := by
  rw [UInt64.lt_iff_toNat_lt, hkeeps.pageSize]
  exact pager.pageSize_pos

/-- The order is worked out at most once, and its slots hold the items as they are arranged. -/
theorem ordered (hkeeps : slots.Keeps pager) :
    ∃ order later, slots.ordered = (order, later) ∧ later.Keeps pager ∧
      pager.arranged = (order.map slots.held).getD slots.items := by
  have harranged : ∀ comparison, slots.comparison = some comparison →
      pager.arranged = slots.held (sortedSlots comparison slots.items) := by
    intro comparison hcomparison
    unfold Pager.arranged held
    rw [← hkeeps.comparison, hcomparison, map_sortedSlots, hkeeps.items]
  unfold SlotPager.ordered
  split
  next hcomparison =>
    refine ⟨none, slots, rfl, hkeeps, ?_⟩
    unfold Pager.arranged
    rw [← hkeeps.comparison, hcomparison, ← hkeeps.items]
    rfl
  next comparison hcomparison =>
    split
    next order horder =>
      refine ⟨some order, slots, rfl, hkeeps, ?_⟩
      obtain ⟨kept, hkept, rfl⟩ := hkeeps.order order horder
      exact harranged kept hkept
    next =>
      refine ⟨some (sortedSlots comparison slots.items), _, rfl, ?_,
        harranged comparison hcomparison⟩
      refine { hkeeps with order := ?_ }
      rintro _ ⟨⟩
      exact ⟨comparison, hcomparison, rfl⟩

theorem get? (hkeeps : slots.Keeps pager) (position : UInt64) :
    ∃ later, slots.get? position = (pager.get? position.toNat, later) ∧ later.Keeps pager := by
  obtain ⟨order, later, hordered, hlater, harranged⟩ := hkeeps.ordered
  refine ⟨later, ?_, hlater⟩
  unfold SlotPager.get? Pager.get?
  rw [hordered, harranged]
  cases order with
  | none => rfl
  | some order =>
      simp only [Option.map_some, Option.getD_some, held, List.getElem?_map]

theorem page (hkeeps : slots.Keeps pager) (start size : UInt64) :
    ∃ later, slots.page start size = (some (pager.page start.toNat size.toNat), later) ∧
      later.Keeps pager := by
  obtain ⟨order, later, hordered, hlater, harranged⟩ := hkeeps.ordered
  refine ⟨later, ?_, hlater⟩
  have hsize := hkeeps.size
  have hfits := hkeeps.fits_words
  have htotal := pager.length_arranged
  have hfirst : (min start slots.size).toNat = min start.toNat pager.size := by
    rw [UInt64.toNat_min, hsize]
  have hstart : (min start slots.size).toNat ≤ pager.size := by omega
  -- A sum that does not fit a word lies beyond the end as well.
  have hstop : (min (saturatingSum (min start slots.size) size) slots.size).toNat =
      min ((min start slots.size).toNat + size.toNat) pager.size := by
    rw [UInt64.toNat_min, hsize, toNat_saturatingSum]
    omega
  unfold SlotPager.page Pager.page
  cases order with
  | none =>
      rw [Option.map_none, Option.getD_none] at harranged
      rw [← htotal, harranged] at hstart hstop
      simp only [hordered, stretch?_clamped hstart hstop, Option.map_some, hsize, hfirst,
        harranged]
  | some order =>
      rw [Option.map_some, Option.getD_some] at harranged
      have horder : order.length = pager.size := by
        rw [← htotal, harranged, held, List.length_map]
      rw [← horder] at hstart hstop
      simp only [hordered, stretch?_clamped hstart hstop, Option.map_some, hsize, hfirst,
        harranged, held, List.map_take, List.map_drop]

theorem window (hkeeps : slots.Keeps pager) {start stop : UInt64} (hle : start ≤ stop)
    (noun : Noun) :
    ∃ later,
      slots.window start stop = (some (pager.window ⟨start.toNat, stop.toNat, noun⟩), later) ∧
        later.Keeps pager := by
  obtain ⟨length, hlength, hvalue⟩ := difference?_of_le (UInt64.le_iff_toNat_le.mp hle)
  obtain ⟨later, hpage, hlater⟩ := hkeeps.page start length
  refine ⟨later, ?_, hlater⟩
  unfold SlotPager.window Pager.window Window.length
  rw [hlength, ← hvalue]
  exact hpage

theorem windows (hkeeps : slots.Keeps pager) : slots.windows = some pager.windows := by
  have hsize := hkeeps.size
  have hpageSize := hkeeps.pageSize
  have hstep := hkeeps.pageSize_pos
  have hwords : slots.size.toNat < UInt64.size / 2 := hsize ▸ hkeeps.fits_words
  have hstarts : (positions slots.size slots.pageSize 0).map UInt64.toNat =
      (List.range pager.windows.length).map (· * pager.pageSize) := by
    have hbegin : (0 : UInt64).toNat = 0 * slots.pageSize.toNat := (Nat.zero_mul _).symm
    rw [List.range_eq_range', ← hpageSize]
    apply map_toNat_positions hwords hstep hbegin
    · rw [hsize, hpageSize, Nat.zero_add, ← Nat.not_lt, ← Pager.lt_length_windows]
      exact Nat.lt_irrefl _
    · intro number hnumber
      rw [hsize, hpageSize, Nat.zero_add]
      exact Pager.lt_length_windows.mp hnumber
  have hends : ∀ start ∈ positions slots.size slots.pageSize 0,
      (do
        let stop ← sum? start slots.pageSize
        return (⟨start.toNat, (min stop slots.size).toNat, slots.noun⟩ : Window)) =
      some ⟨start.toNat, min (start.toNat + pager.pageSize) pager.size, pager.noun⟩ := by
    intro start hstart
    have hmem := List.mem_map_of_mem (f := UInt64.toNat) hstart
    rw [hstarts, List.mem_map] at hmem
    obtain ⟨number, hnumber, hvalue⟩ := hmem
    have hlt := Pager.lt_length_windows.mp (List.mem_range.mp hnumber)
    have hmultiple : start.toNat = number * slots.pageSize.toNat := by rw [← hvalue, hpageSize]
    have hfits : start.toNat + slots.pageSize.toNat < UInt64.size := by
      apply add_step_lt hwords _ hmultiple
      rwa [hsize, ← hvalue]
    have hsum := sum?_of_lt hfits
    rw [hsum, ← hpageSize, ← hsize, ← toNat_of_sum? hsum, ← UInt64.toNat_min, hkeeps.noun]
    rfl
  have hnonzero : slots.pageSize ≠ 0 := by
    rintro hzero
    rw [hzero] at hstep
    exact absurd hstep (by decide)
  unfold SlotPager.windows stepped?
  rw [if_neg hnonzero]
  refine (mapM_eq_some_map hends).trans ?_
  rw [Pager.windows_eq_map_starts, ← hstarts, List.map_map]
  rfl

/-- A page holds no more than there is. -/
theorem left_out (hkeeps : slots.Keeps pager) (start size : Nat) :
    ∃ remaining,
      difference? slots.size (UInt64.ofNat (pager.page start size).items.length) =
        some remaining ∧
      remaining.toNat = pager.size - (pager.page start size).items.length := by
  have hwords := hkeeps.fits_words
  have hlength : (pager.page start size).items.length ≤ pager.size := by
    unfold Pager.page
    rw [List.length_take, List.length_drop, pager.length_arranged]
    omega
  have hvalue : (UInt64.ofNat (pager.page start size).items.length).toNat =
      (pager.page start size).items.length := UInt64.toNat_ofNat_of_lt' (by omega)
  rw [← hkeeps.size] at hlength ⊢
  obtain ⟨remaining, hremaining, hdifference⟩ := difference?_of_le (hvalue.trans_le hlength)
  exact ⟨remaining, hremaining, hvalue ▸ hdifference⟩

theorem present (hkeeps : slots.Keeps pager) :
    ∃ later, slots.present = (some pager.present, later) ∧ later.Keeps pager := by
  obtain ⟨later, hpage, hlater⟩ := hkeeps.page 0 slots.pageSize
  refine ⟨later, ?_, hlater⟩
  have hsize := hkeeps.size
  have hpageSize := hkeeps.pageSize
  rw [hpageSize, UInt64.toNat_zero] at hpage
  have hwhole : slots.size ≤ slots.pageSize ↔ pager.size ≤ pager.pageSize := by
    rw [UInt64.le_iff_toNat_le, hsize, hpageSize]
  unfold SlotPager.present Pager.present
  rw [hpage]
  simp only [Option.bind_eq_bind, Option.bind_some, hwhole, hkeeps.overflow]
  split
  next => rfl
  next =>
    cases pager.overflow with
    | truncate =>
        obtain ⟨remaining, hremaining, hvalue⟩ := hkeeps.left_out 0 pager.pageSize
        simp only [hremaining, Option.bind_some, hvalue, hkeeps.noun]
        rfl
    | windows =>
        simp only [hkeeps.windows, Option.bind_some, hkeeps.noun]
        rfl

end Keeps

end SlotPager

/-! ## Declarations -/

/-- What is declared of a pager before it is asked for anything, or in between. -/
inductive Declaration (α : Type) where
  | withPageSize (size : UInt64)
  | withSettings (settings : Settings)
  | withOverflow (overflow : OverflowMode)
  | sortedBy (comparison : α → α → Ordering)

namespace Declaration

def size? : Declaration α → Option UInt64
  | .withPageSize size => some size
  | .withSettings settings => some settings.maxPageNodes
  | .withOverflow _ | .sortedBy _ => none

def overflow? : Declaration α → Option OverflowMode
  | .withSettings settings => some settings.overflow
  | .withOverflow overflow => some overflow
  | .withPageSize _ | .sortedBy _ => none

def comparison? : Declaration α → Option (α → α → Ordering)
  | .sortedBy comparison => some comparison
  | .withPageSize _ | .withSettings _ | .withOverflow _ => none

/-- The size of a page that counts, which is the one declared last, but never less than one. -/
def lastSize (declarations : List (Declaration α)) : Nat :=
  max ((declarations.filterMap size?).getLast?.getD Settings.default.maxPageNodes).toNat 1

def lastOverflow (declarations : List (Declaration α)) : OverflowMode :=
  (declarations.filterMap overflow?).getLast?.getD Settings.default.overflow

def lastComparison? (declarations : List (Declaration α)) : Option (α → α → Ordering) :=
  (declarations.filterMap comparison?).getLast?

end Declaration

def Pager.declare (pager : Pager α) : Declaration α → Pager α
  | .withPageSize size => pager.withPageSize size.toNat
  | .withSettings settings => pager.withSettings settings
  | .withOverflow overflow => pager.withOverflow overflow
  | .sortedBy comparison => pager.sortedBy comparison

def SlotPager.declare (slots : SlotPager α) : Declaration α → SlotPager α
  | .withPageSize size => slots.withPageSize size
  | .withSettings settings => slots.withSettings settings
  | .withOverflow overflow => slots.withOverflow overflow
  | .sortedBy comparison => slots.sortedBy comparison

/-- The pager over a collection of which a number of things have been declared. -/
def Pager.declared (items : List α) (noun : Noun) (declarations : List (Declaration α)) : Pager α :=
  declarations.foldl declare (ofList items noun)

/-- The pagers in place over a collection that a number of declarations can lead to, whatever is
requested in between. -/
inductive SlotPager.Reached (items : List α) (noun : Noun) :
    List (Declaration α) → SlotPager α → Prop
  | ofList : Reached items noun [] (ofList items noun)
  | declare {declarations : List (Declaration α)} {slots : SlotPager α}
      (hreached : Reached items noun declarations slots) (declaration : Declaration α) :
      Reached items noun (declarations ++ [declaration]) (slots.declare declaration)
  | get? {declarations : List (Declaration α)} {slots : SlotPager α}
      (hreached : Reached items noun declarations slots) (position : UInt64) :
      Reached items noun declarations (slots.get? position).2
  | page {declarations : List (Declaration α)} {slots : SlotPager α}
      (hreached : Reached items noun declarations slots) (start size : UInt64) :
      Reached items noun declarations (slots.page start size).2
  | window {declarations : List (Declaration α)} {slots : SlotPager α}
      (hreached : Reached items noun declarations slots) (start stop : UInt64) :
      Reached items noun declarations (slots.window start stop).2
  | present {declarations : List (Declaration α)} {slots : SlotPager α}
      (hreached : Reached items noun declarations slots) :
      Reached items noun declarations slots.present.2

namespace SlotPager.Keeps

theorem declare {slots : SlotPager α} {pager : Pager α} (hkeeps : slots.Keeps pager)
    (declaration : Declaration α) :
    (slots.declare declaration).Keeps (pager.declare declaration) := by
  have hsize : ∀ size : UInt64, (max size 1).toNat = max size.toNat 1 := fun size =>
    UInt64.toNat_max size 1
  cases declaration with
  | withPageSize size => exact { hkeeps with pageSize := hsize size }
  | withSettings settings =>
      exact { hkeeps with pageSize := hsize settings.maxPageNodes, overflow := rfl }
  | withOverflow overflow => exact { hkeeps with overflow := rfl }
  | sortedBy comparison =>
      exact { hkeeps with comparison := rfl, order := fun _ horder => nomatch horder }

end SlotPager.Keeps

/-- A pager in place keeps the pager of which the same was declared, whatever was requested. -/
theorem SlotPager.Reached.keeps {items : List α} {noun : Noun}
    {declarations : List (Declaration α)} {slots : SlotPager α}
    (hreached : slots.Reached items noun declarations)
    (hfits : items.length < UInt64.size / 2) :
    slots.Keeps (Pager.declared items noun declarations) := by
  induction hreached with
  | ofList => exact ⟨rfl, rfl, rfl, (fun _ horder => nomatch horder), rfl, rfl, hfits⟩
  | declare _ declaration ih =>
      unfold Pager.declared
      rw [List.foldl_append]
      exact ih.declare declaration
  | get? _ position ih =>
      obtain ⟨later, hget, hlater⟩ := ih.get? position
      rw [hget]
      exact hlater
  | page _ start size ih =>
      obtain ⟨later, hpage, hlater⟩ := ih.page start size
      rw [hpage]
      exact hlater
  | window _ start stop ih =>
      unfold SlotPager.window
      split
      next length _ =>
        obtain ⟨later, hpage, hlater⟩ := ih.page start length
        rw [hpage]
        exact hlater
      next => exact ih
  | present _ ih =>
      obtain ⟨later, hpresent, hlater⟩ := ih.present
      rw [hpresent]
      exact hlater

section Declared

variable (items : List α) (noun : Noun) (declarations : List (Declaration α))

/-- What each declaration either sets or leaves alone is what the last one to set it set. -/
theorem last_declared {β γ : Type} (field : Pager α → γ) (declared? : Declaration α → Option β)
    (value : β → γ)
    (hdeclare : ∀ pager declaration,
      field (pager.declare declaration) = ((declared? declaration).map value).getD (field pager)) :
    field (Pager.declared items noun declarations) =
      ((declarations.filterMap declared?).getLast?.map value).getD
        (field (Pager.ofList items noun)) := by
  unfold Pager.declared
  induction declarations using List.reverseRecOn with
  | nil => rfl
  | append_singleton declarations declaration ih =>
      rw [List.foldl_append, List.foldl_cons, List.foldl_nil, hdeclare, ih, List.filterMap_append,
        List.getLast?_append]
      cases hdeclared : declared? declaration with
      | none => simp [hdeclared]
      | some _ => simp [hdeclared]

theorem items_declared : (Pager.declared items noun declarations).items = items := by
  have hlast := last_declared items noun declarations Pager.items (fun _ => none) id
    fun _ declaration => by cases declaration <;> rfl
  simpa [Pager.ofList] using hlast

theorem noun_declared : (Pager.declared items noun declarations).noun = noun := by
  have hlast := last_declared items noun declarations Pager.noun (fun _ => none) id
    fun _ declaration => by cases declaration <;> rfl
  simpa [Pager.ofList] using hlast

theorem pageSize_declared :
    (Pager.declared items noun declarations).pageSize = Declaration.lastSize declarations := by
  unfold Declaration.lastSize
  rw [last_declared items noun declarations Pager.pageSize Declaration.size?
    (fun size => max size.toNat 1) fun _ declaration => by cases declaration <;> rfl]
  cases (declarations.filterMap Declaration.size?).getLast? <;> rfl

theorem overflow_declared :
    (Pager.declared items noun declarations).overflow =
      Declaration.lastOverflow declarations := by
  unfold Declaration.lastOverflow
  rw [last_declared items noun declarations Pager.overflow Declaration.overflow? id
    fun _ declaration => by cases declaration <;> rfl, Option.map_id]
  rfl

theorem comparison_declared :
    (Pager.declared items noun declarations).comparison =
      Declaration.lastComparison? declarations := by
  unfold Declaration.lastComparison?
  rw [last_declared items noun declarations Pager.comparison Declaration.comparison? some
    fun _ declaration => by cases declaration <;> rfl]
  cases (declarations.filterMap Declaration.comparison?).getLast? <;> rfl

end Declared

end Retention.Paging
