import Mathlib.Algebra.Order.Floor.Div
import Retention.Paging.Order
import Retention.Proofs.Slots

/-!
# Pages are slices of one order

A comparison that is a total preorder leaves one order of the slots of a collection in which no slot
is out of place and ties stand as they do in the collection. Whatever was declared and requested
before, a pager in place shows slices of the order of the comparison declared last. Pages requested
one after another join to longer pages, and in the end to the whole collection.
-/

namespace Retention.Paging

open Word

variable {α : Type}

/-! ## The order -/

section Order

variable {comparison? : Option (α → α → Ordering)} {items : List α}

/-- What it is for a slot to come before another: to hold less, or as much and to come first in the
collection. Where nothing is compared, slots come as they do in the collection. -/
def Precedes (comparison? : Option (α → α → Ordering)) (items : List α)
    (a b : Fin items.length) : Prop :=
  match comparison? with
  | none => a < b
  | some comparison =>
      comparison (items.get a) (items.get b) = .lt ∨
        comparison (items.get a) (items.get b) = .eq ∧ a < b

instance (comparison? : Option (α → α → Ordering)) (items : List α) (a b : Fin items.length) :
    Decidable (Precedes comparison? items a b) :=
  match comparison? with
  | none => inferInstanceAs (Decidable (a < b))
  | some comparison =>
      inferInstanceAs (Decidable
        (comparison (items.get a) (items.get b) = .lt ∨
          comparison (items.get a) (items.get b) = .eq ∧ a < b))

/-- All slots of a collection, none of them before one that precedes it. -/
structure Arranges (comparison? : Option (α → α → Ordering)) (items : List α)
    (order : List (Fin items.length)) : Prop where
  perm : order.Perm (List.finRange items.length)
  sorted : order.Pairwise (Precedes comparison? items)

/-- The slots in the order of the collection, or sorted. -/
def arrangement (comparison? : Option (α → α → Ordering)) (items : List α) :
    List (Fin items.length) :=
  match comparison? with
  | none => List.finRange items.length
  | some comparison => sortedSlots comparison items

variable (hpreorder : ∀ comparison, comparison? = some comparison → Std.TransCmp comparison)

include hpreorder

theorem Precedes.asymm {a b : Fin items.length} (hab : Precedes comparison? items a b)
    (hba : Precedes comparison? items b a) : False := by
  cases comparison? with
  | none => exact Nat.lt_asymm hab hba
  | some comparison =>
      have := hpreorder comparison rfl
      have hswap : comparison (items.get a) (items.get b) =
          (comparison (items.get b) (items.get a)).swap := Std.OrientedCmp.eq_swap
      simp only [Precedes] at hab hba
      rcases hba with hba | ⟨hba, hlt⟩
      · rw [hswap, hba] at hab
        simp at hab
      · rw [hswap, hba] at hab
        simp at hab
        exact Nat.lt_asymm hab hlt

/-- There is one arrangement. -/
theorem Arranges.unique {order other : List (Fin items.length)}
    (horder : Arranges comparison? items order) (hother : Arranges comparison? items other) :
    other = order := by
  have hperm : other.Perm order := hother.perm.trans horder.perm.symm
  refine List.Perm.eq_of_pairwise ?_ hother.sorted horder.sorted hperm
  intro a b _ _ hab hba
  exact (hab.asymm hpreorder hba).elim

/-- The stable sort arranges. -/
theorem arranges_arrangement : Arranges comparison? items (arrangement comparison? items) := by
  have hslots : (List.finRange items.length).Pairwise (· < ·) := List.pairwise_lt_finRange _
  cases comparison? with
  | none => exact ⟨.refl _, hslots⟩
  | some comparison =>
      have := hpreorder comparison rfl
      have hswap : ∀ a b : Fin items.length,
          comparison (items.get a) (items.get b) =
            (comparison (items.get b) (items.get a)).swap :=
        fun _ _ => Std.OrientedCmp.eq_swap
      refine ⟨List.mergeSort_perm _ _, ?_⟩
      -- Sorting slots is sorting a collection whose items are slots.
      have hsorted : ((Pager.ofList (List.finRange items.length) .steps).sortedBy
          fun a b => comparison (items.get a) (items.get b)).arranged.Pairwise fun a b =>
            comparison (items.get a) (items.get b) ≠ .gt ∧
              (comparison (items.get b) (items.get a) ≠ .gt → a < b) := by
        apply Pager.pairwise_arranged rfl _ _ hslots
        · intro a b c hab hbc
          have hac := Std.TransCmp.isLE_trans (Ordering.isLE_iff_ne_gt.mpr hab)
            (Ordering.isLE_iff_ne_gt.mpr hbc)
          exact Ordering.isLE_iff_ne_gt.mp hac
        · intro a b
          rw [hswap a b]
          cases comparison (items.get b) (items.get a) <;> simp
      apply hsorted.imp
      rintro a b ⟨hle, hstable⟩
      cases hab : comparison (items.get a) (items.get b) with
      | lt => exact .inl hab
      | eq =>
          rw [hswap b a, hab] at hstable
          exact .inr ⟨hab, hstable (by decide)⟩
      | gt => exact absurd hab hle

end Order

/-- Every order of numbers is a total preorder. -/
theorem NumberOrder.transCmp (order : NumberOrder) : Std.TransCmp order.comparison := by
  cases order with
  | ascending => exact inferInstanceAs (Std.TransCmp compare)
  | descending => exact inferInstanceAs (Std.TransCmp (flip compare))
  | lastDigit => exact inferInstanceAs (Std.TransCmp (compareOn fun a : Int => a.emod 10))
  | magnitude => exact inferInstanceAs (Std.TransCmp (compareOn Int.natAbs))
  | indifferent => exact inferInstanceAs (Std.TransCmp (compareOn fun _ : Int => ()))

/-- Every order of texts is a total preorder. -/
theorem TextOrder.transCmp (order : TextOrder) : Std.TransCmp order.comparison := by
  cases order with
  | ascending => exact inferInstanceAs (Std.TransCmp compare)
  | descending => exact inferInstanceAs (Std.TransCmp (flip compare))
  | shortest => exact inferInstanceAs (Std.TransCmp (compareOn String.utf8ByteSize))
  | longest => exact inferInstanceAs (Std.TransCmp (flip (compareOn String.utf8ByteSize)))

/-! ## Slices -/

/-- A page shows a stretch of a list, beginning at a position or at the end. -/
structure Page.Slice (page : Page α) (shown : List α) (position size : Nat) : Prop where
  start : page.start = min position shown.length
  length : page.stop - page.start = min size (shown.length - min position shown.length)
  items : page.items = (shown.take page.stop).drop page.start
  total : page.total = shown.length
  hasMore : page.hasMore = true ↔ page.stop < shown.length

namespace Pager

variable (pager : Pager α)

theorem items_page (position size : Nat) :
    (pager.page position size).items =
      (pager.arranged.drop (min position pager.size)).take size :=
  rfl

theorem stop_page (position size : Nat) :
    (pager.page position size).stop =
      min position pager.size + min size (pager.size - min position pager.size) := by
  unfold Page.stop
  rw [items_page, List.length_take, List.length_drop, pager.length_arranged]
  rfl

theorem stop_page_le (position size : Nat) : (pager.page position size).stop ≤ pager.size := by
  rw [stop_page]
  omega

theorem slice_page (position size : Nat) :
    (pager.page position size).Slice pager.arranged position size := by
  have htotal := pager.length_arranged
  have hstart : (pager.page position size).start = min position pager.size := rfl
  constructor
  · rw [htotal, hstart]
  · rw [stop_page, htotal, hstart]
    exact Nat.add_sub_cancel_left ..
  · rw [stop_page, hstart, items_page, List.drop_take, Nat.add_sub_cancel_left,
      List.take_eq_take_iff, List.length_drop, htotal]
    omega
  · exact htotal.symm
  · rw [htotal]
    exact decide_eq_true_iff

/-- What is left after a page is what is left after as many items. -/
theorem drop_stop_page (position size : Nat) :
    pager.arranged.drop (pager.page position size).stop =
      (pager.arranged.drop (min position pager.size)).drop size := by
  have htotal := pager.length_arranged
  rw [List.drop_drop, stop_page]
  by_cases hwithin : min position pager.size + size ≤ pager.size
  · congr 1
    omega
  · rw [List.drop_eq_nil_of_le (by omega), List.drop_eq_nil_of_le (by omega)]

/-- A page and the page that begins where it ends are a longer page. -/
theorem page_append (position a b : Nat) :
    (pager.page position a).items ++ (pager.page (pager.page position a).stop b).items =
      (pager.page position (a + b)).items := by
  simp only [items_page]
  rw [Nat.min_eq_left (pager.stop_page_le position a), drop_stop_page, ← List.take_add]

/-- A page cannot hold more than there is. -/
theorem items_page_of_size_le {size : Nat} (hsize : pager.size ≤ size) (position : Nat) :
    (pager.page position size).items = pager.arranged.drop (min position pager.size) := by
  rw [items_page]
  apply List.take_of_length_le
  rw [List.length_drop, pager.length_arranged]
  omega

theorem page_whole : pager.page 0 pager.size = ⟨0, pager.arranged, pager.size⟩ := by
  have hitems : pager.arranged.take pager.size = pager.arranged :=
    List.take_of_length_le pager.length_arranged.le
  simp [page, hitems]

end Pager

/-! ## Page after page -/

/-- Pages requested one after another, each where the one before it ends, until one has nothing
after it. -/
inductive SlotPager.PagesFrom (size : UInt64) : SlotPager α → UInt64 → List (Page α) → Prop
  | last {slots later : SlotPager α} {start : UInt64} {page : Page α}
      (hpage : slots.page start size = (some page, later)) (hlast : page.hasMore = false) :
      PagesFrom size slots start [page]
  | next {slots later : SlotPager α} {start : UInt64} {page : Page α} {pages : List (Page α)}
      (hpage : slots.page start size = (some page, later)) (hmore : page.hasMore = true)
      (hpages : PagesFrom size later (UInt64.ofNat page.stop) pages) :
      PagesFrom size slots start (page :: pages)

namespace SlotPager

variable {slots : SlotPager α} {pager : Pager α} {size : UInt64}

/-- The pages are determined by the first request. -/
theorem PagesFrom.unique {start : UInt64} {pages other : List (Page α)}
    (hpages : slots.PagesFrom size start pages) (hother : slots.PagesFrom size start other) :
    other = pages := by
  induction hpages generalizing other with
  | last hpage hlast =>
      cases hother with
      | last hagain _ =>
          rw [hpage] at hagain
          cases hagain
          rfl
      | next hagain hmore _ =>
          rw [hpage] at hagain
          cases hagain
          exact absurd (hmore.symm.trans hlast) (by decide)
  | next hpage hmore hpages ih =>
      cases hother with
      | last hagain hlast =>
          rw [hpage] at hagain
          cases hagain
          exact absurd (hmore.symm.trans hlast) (by decide)
      | next hagain _ hrest =>
          rw [hpage] at hagain
          cases hagain
          rw [ih hrest]

/-- A page that something comes after is one of the pages that are needed. -/
theorem needed_succ {left size : Nat} (hsize : 0 < size) (hmore : size < left) :
    max 1 (left ⌈/⌉ size) = max 1 ((left - size) ⌈/⌉ size) + 1 := by
  have hfirst : left + size - 1 = left - size + size - 1 + size := by omega
  have hrest : 1 ≤ (left - size + size - 1) / size := Nat.div_pos (by omega) hsize
  rw [Nat.ceilDiv_eq_add_pred_div, Nat.ceilDiv_eq_add_pred_div, hfirst, Nat.add_div_right _ hsize]
  omega

theorem needed_last {left size : Nat} (hsize : 0 < size) (hlast : left ≤ size) :
    max 1 (left ⌈/⌉ size) = 1 := by
  have hleft : left ⌈/⌉ size ≤ 1 := by
    rw [Nat.ceilDiv_eq_add_pred_div]
    exact Nat.le_of_lt_succ (Nat.div_lt_of_lt_mul (by omega))
  omega

/-- From a position on, page after page shows everything that is left, on no more pages than are
needed. -/
theorem Keeps.exists_pagesFrom (hkeeps : slots.Keeps pager) (hsize : 0 < size) {start : UInt64}
    (hstart : start.toNat ≤ pager.size) :
    ∃ pages, slots.PagesFrom size start pages ∧
      pages.flatMap Page.items = pager.arranged.drop start.toNat ∧
      pages.length = max 1 ((pager.size - start.toNat) ⌈/⌉ size.toNat) := by
  have hpositive : 0 < size.toNat := UInt64.lt_iff_toNat_lt.mp hsize
  induction hleft : pager.size - start.toNat using Nat.strong_induction_on
    generalizing slots start with
  | _ left ih =>
      obtain ⟨later, hpage, hlater⟩ := hkeeps.page start size
      have hstop := pager.stop_page start.toNat size.toNat
      have hdrop := pager.drop_stop_page start.toNat size.toNat
      have hitems := pager.items_page start.toNat size.toNat
      rw [Nat.min_eq_left hstart] at hstop hdrop hitems
      have htotal : (pager.page start.toNat size.toNat).hasMore = true ↔
          (pager.page start.toNat size.toNat).stop < pager.size := decide_eq_true_iff
      generalize pager.page start.toNat size.toNat = page at *
      by_cases hmore : page.stop < pager.size
      · -- What follows a full page is less than what was left.
        have hnext : page.stop = start.toNat + size.toNat := by omega
        have hwords := hkeeps.fits_words
        have hvalue : (UInt64.ofNat page.stop).toNat = page.stop :=
          UInt64.toNat_ofNat_of_lt' (by omega)
        have hrest := ih (pager.size - page.stop) (by omega) hlater
          (hvalue.trans_le (Nat.le_of_lt hmore)) (by rw [hvalue])
        obtain ⟨pages, hpages, hshown, hcount⟩ := hrest
        refine ⟨page :: pages, .next hpage (htotal.mpr hmore) hpages, ?_, ?_⟩
        · rw [List.flatMap_cons, hshown, hitems, hvalue, hdrop, List.take_append_drop]
        · have hleftover : pager.size - page.stop = left - size.toNat := by omega
          have hsucc : max 1 (left ⌈/⌉ size.toNat) = _ := needed_succ hpositive (by omega)
          rw [List.length_cons, hcount, hleftover, hsucc]
      · have hlast : page.hasMore = false := by
          rw [← Bool.not_eq_true, htotal]
          exact hmore
        refine ⟨[page], .last hpage hlast, ?_, ?_⟩
        · rw [List.flatMap_singleton, hitems]
          apply List.take_of_length_le
          rw [List.length_drop, pager.length_arranged]
          omega
        · rw [needed_last hpositive (by omega)]
          rfl

/-- Whatever is requested shows a slice of one list. -/
structure Slices (slots : SlotPager α) (shown : List α) : Prop where
  whole : (slots.page 0 slots.size).1 = some ⟨0, shown, shown.length⟩
  get? : ∀ position, (slots.get? position).1 = shown[position.toNat]?
  get?_none : ∀ position, (slots.get? position).1 = none ↔ shown.length ≤ position.toNat
  page : ∀ start size, ∃ page, (slots.page start size).1 = some page ∧
    page.Slice shown start.toNat size.toNat
  /-- Two requests, the second where the first page ends, show what one request shows. -/
  joined : ∀ start a b, ∃ first second both later,
    slots.page start a = (some first, later) ∧
      (later.page (UInt64.ofNat first.stop) b).1 = some second ∧
      (slots.page start (saturatingSum a b)).1 = some both ∧
      first.items ++ second.items = both.items
  /-- Page after page of any size but zero shows everything once. -/
  paged : ∀ size, 0 < size → ∃ pages, slots.PagesFrom size 0 pages ∧
    (∀ other, slots.PagesFrom size 0 other → other = pages) ∧
    pages.flatMap Page.items = shown ∧
    pages.length = max 1 (shown.length ⌈/⌉ size.toNat)

theorem Keeps.joined (hkeeps : slots.Keeps pager) (start a b : UInt64) :
    ∃ first second both later,
      slots.page start a = (some first, later) ∧
        (later.page (UInt64.ofNat first.stop) b).1 = some second ∧
        (slots.page start (saturatingSum a b)).1 = some both ∧
        first.items ++ second.items = both.items := by
  have hwords := hkeeps.fits_words
  obtain ⟨later, hfirst, hlater⟩ := hkeeps.page start a
  obtain ⟨_, hboth, -⟩ := hkeeps.page start (saturatingSum a b)
  set first := pager.page start.toNat a.toNat
  have hle : first.stop ≤ pager.size := pager.stop_page_le ..
  have hstop : (UInt64.ofNat first.stop).toNat = first.stop :=
    UInt64.toNat_ofNat_of_lt' (by omega)
  obtain ⟨_, hsecond, -⟩ := hlater.page (UInt64.ofNat first.stop) b
  rw [hstop] at hsecond
  refine ⟨first, _, _, later, hfirst, congrArg Prod.fst hsecond, congrArg Prod.fst hboth, ?_⟩
  rw [pager.page_append, toNat_saturatingSum]
  -- A sum that does not fit a word asks for more than there is, and so does the greatest word.
  by_cases hfits : a.toNat + b.toNat < UInt64.size
  · rw [Nat.min_eq_left (by omega)]
  · rw [pager.items_page_of_size_le (by omega), pager.items_page_of_size_le (by omega)]

theorem Keeps.slices (hkeeps : slots.Keeps pager) : slots.Slices pager.arranged where
  whole := by
    obtain ⟨_, hpage, -⟩ := hkeeps.page 0 slots.size
    rw [hpage, hkeeps.size, pager.length_arranged]
    exact congrArg some pager.page_whole
  get? position := by
    obtain ⟨_, hget, -⟩ := hkeeps.get? position
    rw [hget]
    rfl
  get?_none position := by
    obtain ⟨_, hget, -⟩ := hkeeps.get? position
    rw [hget]
    exact List.getElem?_eq_none_iff
  page start size := by
    obtain ⟨_, hpage, -⟩ := hkeeps.page start size
    exact ⟨_, congrArg Prod.fst hpage, pager.slice_page ..⟩
  joined := hkeeps.joined
  paged size hsize := by
    have hstart : (0 : UInt64).toNat ≤ pager.size := Nat.zero_le _
    obtain ⟨pages, hpages, hshown, hcount⟩ := hkeeps.exists_pagesFrom hsize hstart
    exact ⟨pages, hpages, fun _ hother => hpages.unique hother, hshown,
      pager.length_arranged.symm ▸ hcount⟩

end SlotPager

/-- A pager shows its collection in the order of the comparison declared last. -/
theorem arranged_declared (items : List α) (noun : Noun) (declarations : List (Declaration α)) :
    (Pager.declared items noun declarations).arranged =
      (arrangement (Declaration.lastComparison? declarations) items).map items.get := by
  unfold Pager.arranged arrangement
  rw [comparison_declared, items_declared]
  cases Declaration.lastComparison? declarations with
  | none => exact (List.map_get_finRange items).symm
  | some comparison => exact (map_sortedSlots comparison items).symm

/-- Whatever was declared and requested before, a pager shows slices of the one order that its last
comparison leaves. -/
theorem pages_slice_order {items : List α} {noun : Noun} {declarations : List (Declaration α)}
    {slots : SlotPager α} (hreached : slots.Reached items noun declarations)
    (hfits : items.length < UInt64.size / 2)
    (hpreorder : ∀ comparison,
      Declaration.lastComparison? declarations = some comparison → Std.TransCmp comparison) :
    ∃ order,
      Arranges (Declaration.lastComparison? declarations) items order ∧
        (∀ other,
          Arranges (Declaration.lastComparison? declarations) items other → other = order) ∧
        slots.Slices (order.map items.get) := by
  have harranges : Arranges _ items _ := arranges_arrangement hpreorder
  refine ⟨_, harranges, fun _ hother => harranges.unique hpreorder hother, ?_⟩
  rw [← arranged_declared items noun declarations]
  exact (hreached.keeps hfits).slices

/-- Numbers by their last digit. An earlier comparison, a page size of zero and a page that was
requested in between make no difference. -/
theorem pages_slice_order_sample :
    ∃ slots : SlotPager Int,
      slots.Reached [13, 21, 3, 11, 20] .instances
          [.sortedBy NumberOrder.descending.comparison, .withPageSize 0,
            .sortedBy NumberOrder.lastDigit.comparison] ∧
        slots.Slices [20, 21, 11, 13, 3] := by
  have hbegin : SlotPager.Reached [(13 : Int), 21, 3, 11, 20] .instances [] (.ofList _ _) :=
    .ofList
  have hrequested := (hbegin.declare (.sortedBy NumberOrder.descending.comparison)).page 1 2
  have hreached := (hrequested.declare (.withPageSize 0)).declare
    (.sortedBy NumberOrder.lastDigit.comparison)
  refine ⟨_, hreached, ?_⟩
  obtain ⟨order, -, hunique, hslices⟩ := pages_slice_order hreached (by decide) (by
    rintro _ ⟨⟩
    exact NumberOrder.transCmp .lastDigit)
  have horder : [4, 1, 3, 0, 2] = order := hunique [4, 1, 3, 0, 2] ⟨by decide, by decide⟩
  subst horder
  exact hslices

end Retention.Paging
