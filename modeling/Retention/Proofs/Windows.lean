import Mathlib.Data.List.Chain
import Retention.Proofs.Pages

/-!
# Windows and presentations account for everything

However a collection is to be paged, its windows are stretches of one page each that follow one
another from the beginning to the end, and only the last one may be shorter. They read as the whole
collection. A presentation shows all of it, or its first page together with the number of items left
out or with all windows.
-/

namespace Retention.Paging

variable {α : Type}

/-! ## Windows -/

/-- Windows that follow one another up to a position. -/
structure Tiles (windows : List Window) (noun : Noun) (total size : Nat) : Prop where
  count : windows.length = total ⌈/⌉ size
  first : ∀ window, windows.head? = some window → window.start = 0
  consecutive : windows.IsChain fun window next => next.start = window.stop
  last : ∀ window, windows.getLast? = some window → window.stop = total
  nonempty : ∀ window ∈ windows, window.start < window.stop
  full : ∀ window ∈ windows.dropLast, window.length = size
  /-- What is written for the windows are ranges that follow one another. -/
  labels : ∃ ranges : List (Nat × Nat),
    windows.map Window.label = ranges.map (fun range =>
      "<" ++ noun.plural ++ " " ++ range.1.repr ++ "-" ++ range.2.repr ++ ">") ∧
    (∀ range ∈ ranges, range.1 ≤ range.2) ∧
    ranges.IsChain fun range next => next.1 = range.2 + 1

namespace Pager

variable (pager : Pager α)

/-- The window of a number. -/
def windowAt (number : Nat) : Window :=
  ⟨number * pager.pageSize, min (number * pager.pageSize + pager.pageSize) pager.size, pager.noun⟩

theorem length_windows : pager.windows.length = pager.size ⌈/⌉ pager.pageSize := by
  unfold windows
  rw [List.length_map, List.length_range, Nat.ceilDiv_eq_add_pred_div]

theorem getElem_windows {number : Nat} (hnumber : number < pager.windows.length) :
    pager.windows[number] = pager.windowAt number := by
  simp [windows, windowAt]

/-- A window begins before the end of the collection, and ends there or one page later. -/
theorem windowAt_of_mem {window : Window} (hmem : window ∈ pager.windows) :
    ∃ number, number * pager.pageSize < pager.size ∧ pager.windowAt number = window := by
  obtain ⟨number, hnumber, hwindow⟩ := List.getElem_of_mem hmem
  exact ⟨number, lt_length_windows.mp hnumber, pager.getElem_windows hnumber ▸ hwindow⟩

/-- A window that another one comes after is a whole page. -/
theorem stop_windowAt {number : Nat} (hnext : number + 1 < pager.windows.length) :
    (pager.windowAt number).stop = (number + 1) * pager.pageSize := by
  have hlt := lt_length_windows.mp hnext
  rw [Nat.succ_mul] at hlt ⊢
  exact Nat.min_eq_left hlt.le

theorem windows_consecutive :
    pager.windows.IsChain fun window next => next.start = window.stop := by
  rw [List.isChain_iff_getElem]
  intro number hnext
  rw [getElem_windows, getElem_windows, stop_windowAt pager hnext]
  rfl

theorem start_lt_stop_of_mem {window : Window} (hmem : window ∈ pager.windows) :
    window.start < window.stop := by
  obtain ⟨number, hnumber, rfl⟩ := pager.windowAt_of_mem hmem
  exact Nat.lt_min.mpr ⟨Nat.lt_add_of_pos_right pager.pageSize_pos, hnumber⟩

theorem stop_le_size_of_mem {window : Window} (hmem : window ∈ pager.windows) :
    window.stop ≤ pager.size := by
  obtain ⟨number, -, rfl⟩ := pager.windowAt_of_mem hmem
  exact Nat.min_le_right ..

theorem noun_of_mem {window : Window} (hmem : window ∈ pager.windows) :
    window.noun = pager.noun := by
  obtain ⟨number, -, rfl⟩ := pager.windowAt_of_mem hmem
  rfl

theorem stop_of_getLast? {window : Window} (hlast : pager.windows.getLast? = some window) :
    window.stop = pager.size := by
  rw [List.getLast?_eq_getElem?, List.getElem?_eq_some_iff] at hlast
  obtain ⟨hnumber, rfl⟩ := hlast
  rw [getElem_windows]
  -- The next window would begin at the end or later.
  have hnone : ¬ pager.windows.length < pager.windows.length := Nat.lt_irrefl _
  rw [lt_length_windows] at hnone
  have hsucc : pager.windows.length = pager.windows.length - 1 + 1 := by omega
  rw [hsucc, Nat.succ_mul] at hnone
  exact Nat.min_eq_right (Nat.not_lt.mp hnone)

theorem length_of_mem_dropLast {window : Window} (hmem : window ∈ pager.windows.dropLast) :
    window.length = pager.pageSize := by
  obtain ⟨number, hnumber, rfl⟩ := List.getElem_of_mem hmem
  rw [List.length_dropLast] at hnumber
  rw [List.getElem_dropLast, getElem_windows, Window.length, stop_windowAt pager (by omega),
    Nat.succ_mul]
  exact Nat.add_sub_cancel_left ..

theorem tiles_windows : Tiles pager.windows pager.noun pager.size pager.pageSize where
  count := pager.length_windows
  first window hwindow := by
    rw [List.head?_eq_getElem?, List.getElem?_eq_some_iff] at hwindow
    obtain ⟨_, rfl⟩ := hwindow
    rw [getElem_windows]
    exact Nat.zero_mul _
  consecutive := pager.windows_consecutive
  last _ := pager.stop_of_getLast?
  nonempty _ := pager.start_lt_stop_of_mem
  full _ := pager.length_of_mem_dropLast
  labels := by
    refine ⟨pager.windows.map fun window => (window.start + 1, window.stop), ?_, ?_, ?_⟩
    · rw [List.map_map]
      apply List.map_congr_left
      intro window hmem
      rw [Window.label, pager.noun_of_mem hmem]
      rfl
    · intro range hmem
      obtain ⟨window, hwindow, rfl⟩ := List.mem_map.mp hmem
      exact pager.start_lt_stop_of_mem hwindow
    · apply List.isChain_map_of_isChain _ _ pager.windows_consecutive
      intro window next hnext
      rw [hnext]

/-- A window is read as the page it stands for. -/
theorem stop_window_of_mem {window : Window} (hmem : window ∈ pager.windows) :
    (pager.window window).start = window.start ∧ (pager.window window).stop = window.stop := by
  have hlt := pager.start_lt_stop_of_mem hmem
  have hle := pager.stop_le_size_of_mem hmem
  have hstart : min window.start pager.size = window.start := Nat.min_eq_left (by omega)
  constructor
  · exact hstart
  · unfold Pager.window Window.length
    rw [stop_page, hstart]
    omega

end Pager

/-! ## Presentations -/

/-- What a presentation of a collection shows: all of it if it fits on a page, and else the first
page. -/
inductive Presentation.Shows (shown : List α) (windows : List Window) (noun : Noun) (size : Nat) :
    OverflowMode → Presentation α → Prop
  | full {overflow : OverflowMode} (hfits : shown.length ≤ size) :
      Shows shown windows noun size overflow (.full ⟨0, shown, shown.length⟩)
  | truncated (hexceeds : size < shown.length) :
      Shows shown windows noun size .truncate
        (.truncated ⟨0, shown.take size, shown.length⟩ ⟨shown.length - size, noun⟩)
  | windowed (hexceeds : size < shown.length) (hwindows : 2 ≤ windows.length) :
      Shows shown windows noun size .windows
        (.windowed ⟨size, noun⟩ ⟨0, shown.take size, shown.length⟩ windows)

theorem Pager.shows_present (pager : Pager α) :
    pager.present.Shows pager.arranged pager.windows pager.noun pager.pageSize pager.overflow := by
  have htotal := pager.length_arranged
  have hfirst : pager.page 0 pager.pageSize =
      ⟨0, pager.arranged.take pager.pageSize, pager.arranged.length⟩ := by
    simp [Pager.page, htotal]
  unfold Pager.present
  by_cases hfits : pager.size ≤ pager.pageSize
  · have hwhole : pager.arranged.take pager.pageSize = pager.arranged :=
      List.take_of_length_le (htotal.trans_le hfits)
    rw [if_pos hfits, hfirst, hwhole]
    exact .full (htotal.trans_le hfits)
  · have hexceeds : pager.pageSize < pager.arranged.length := by
      rw [htotal]
      exact Nat.not_le.mp hfits
    have hcount : (pager.arranged.take pager.pageSize).length = pager.pageSize :=
      List.length_take_of_le hexceeds.le
    rw [if_neg hfits]
    cases pager.overflow with
    | truncate =>
        simp only [hfirst, hcount, ← htotal]
        exact .truncated hexceeds
    | windows =>
        -- The second window begins before the end.
        have hsecond : 1 < pager.windows.length := by
          rw [Pager.lt_length_windows, Nat.one_mul, ← htotal]
          exact hexceeds
        simp only [hfirst, hcount]
        exact .windowed hexceeds hsecond

namespace SlotPager

/-- A page is what a window stands for. -/
structure Resolves (slots : SlotPager α) (window : Window) (page : Page α) : Prop where
  answer : (slots.window (UInt64.ofNat window.start) (UInt64.ofNat window.stop)).1 = some page
  start : page.start = window.start
  stop : page.stop = window.stop

theorem Keeps.resolves {slots : SlotPager α} {pager : Pager α} (hkeeps : slots.Keeps pager)
    {window : Window} (hmem : window ∈ pager.windows) :
    slots.Resolves window (pager.window window) := by
  have hwords := hkeeps.fits_words
  have hlt := pager.start_lt_stop_of_mem hmem
  have hle := pager.stop_le_size_of_mem hmem
  have hstart : (UInt64.ofNat window.start).toNat = window.start :=
    UInt64.toNat_ofNat_of_lt' (by omega)
  have hstop : (UInt64.ofNat window.stop).toNat = window.stop :=
    UInt64.toNat_ofNat_of_lt' (by omega)
  have hordered : UInt64.ofNat window.start ≤ UInt64.ofNat window.stop := by
    rw [UInt64.le_iff_toNat_le, hstart, hstop]
    exact hlt.le
  obtain ⟨_, hpage, -⟩ := hkeeps.window hordered window.noun
  rw [hstart, hstop] at hpage
  have hstretch := pager.stop_window_of_mem hmem
  exact ⟨congrArg Prod.fst hpage, hstretch.1, hstretch.2⟩

end SlotPager

/-- Whatever was declared and requested before, the windows of a pager tile its collection and read
as all of it, and its presentation accounts for every item. -/
theorem windows_and_presentation_account {items : List α} {noun : Noun}
    {declarations : List (Declaration α)} {slots : SlotPager α}
    (hreached : slots.Reached items noun declarations)
    (hfits : items.length < UInt64.size / 2)
    (hpreorder : ∀ comparison,
      Declaration.lastComparison? declarations = some comparison → Std.TransCmp comparison) :
    ∃ order windows pages presentation,
      Arranges (Declaration.lastComparison? declarations) items order ∧
        slots.windows = some windows ∧
        Tiles windows noun items.length (Declaration.lastSize declarations) ∧
        List.Forall₂ slots.Resolves windows pages ∧
        pages.flatMap Page.items = order.map items.get ∧
        slots.present.1 = some presentation ∧
        presentation.Shows (order.map items.get) windows noun
          (Declaration.lastSize declarations) (Declaration.lastOverflow declarations) := by
  have hkeeps := hreached.keeps hfits
  set pager := Pager.declared items noun declarations
  have hitems : pager.items = items := items_declared ..
  have hsize : pager.pageSize = Declaration.lastSize declarations := pageSize_declared ..
  have hnoun : pager.noun = noun := noun_declared ..
  have hshown : pager.arranged =
      (arrangement (Declaration.lastComparison? declarations) items).map items.get :=
    arranged_declared ..
  obtain ⟨_, hpresent, -⟩ := hkeeps.present
  refine ⟨_, pager.windows, pager.windows.map pager.window, pager.present,
    arranges_arrangement hpreorder, hkeeps.windows, ?_, ?_, ?_, congrArg Prod.fst hpresent, ?_⟩
  · rw [← hsize, ← hnoun, ← hitems]
    exact pager.tiles_windows
  · rw [List.forall₂_map_right_iff, List.forall₂_same]
    intro window hmem
    exact hkeeps.resolves hmem
  · rw [← hshown, ← pager.read_eq_arranged, List.flatMap_map]
    rfl
  · rw [← hshown, ← hsize, ← hnoun, ← overflow_declared items noun declarations]
    exact pager.shows_present

/-- Five numbers by their last digit, of which pages of two are to be shown in the end. -/
theorem windows_and_presentation_account_sample :
    ∃ (slots : SlotPager Int) (windows : List Window),
      slots.Reached [13, 21, 3, 11, 20] .instances
          [.withPageSize 18446744073709551615, .sortedBy NumberOrder.lastDigit.comparison,
            .withSettings ⟨0, .skip, .truncate, 1, false⟩, .withPageSize 2] ∧
        slots.windows = some windows ∧ Tiles windows .instances 5 2 ∧
        slots.present.1 = some (.truncated ⟨0, [20, 21], 5⟩ ⟨3, .instances⟩) := by
  have hbegin : SlotPager.Reached [(13 : Int), 21, 3, 11, 20] .instances [] (.ofList _ _) :=
    .ofList
  have hreached := (((hbegin.declare (.withPageSize 18446744073709551615)).declare
    (.sortedBy NumberOrder.lastDigit.comparison)).declare
      (.withSettings ⟨0, .skip, .truncate, 1, false⟩)).declare (.withPageSize 2)
  have hpreorder : ∀ comparison, some NumberOrder.lastDigit.comparison = some comparison →
      Std.TransCmp comparison := by
    rintro _ ⟨⟩
    exact NumberOrder.transCmp .lastDigit
  obtain ⟨order, windows, _, presentation, harranges, hwindows, htiles, -, -, hpresent, hshows⟩ :=
    windows_and_presentation_account hreached (by decide) hpreorder
  have horder : [4, 1, 3, 0, 2] = order := harranges.unique hpreorder ⟨by decide, by decide⟩
  subst horder
  refine ⟨_, windows, hreached, hwindows, htiles, hpresent.trans ?_⟩
  cases hshows with
  | full hfits => exact absurd hfits (by decide)
  | truncated _ => rfl

end Retention.Paging
