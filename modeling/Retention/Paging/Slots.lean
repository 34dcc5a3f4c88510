import Retention.Paging
import Retention.Word

/-!
# Pagers in place

A pager moves no item. It reads the collection in place, through an order of slots that is worked
out when it is first needed and kept from then on. Positions and sizes are words. A step of nothing
has no answer, nor has a stretch that reaches beyond what it is cut from.
-/

namespace Retention.Paging

open Word

/-! ## Positions -/

/-- Every `step`th position below `total`, the first of them being `start`. -/
def positions (total step start : UInt64) : List UInt64 :=
  if start < total ∧ 0 < step then
    start ::
      match _hsum : sum? start step with
      | some next => positions total step next
      | none => []
  else []
termination_by total.toNat - start.toNat
decreasing_by
  rename_i hwithin
  have hnext := toNat_of_sum? _hsum
  have hstart := UInt64.lt_iff_toNat_lt.mp hwithin.1
  have hstep : 0 < step.toNat := UInt64.lt_iff_toNat_lt.mp hwithin.2
  omega

/-- The positions below `total`, `step` by `step`. -/
def stepped? (total step : UInt64) : Option (List UInt64) :=
  if step = 0 then none else some (positions total step 0)

/-- The part of a list from one position up to another, if the list has both. -/
def stretch? {α : Type} (items : List α) (start stop : UInt64) : Option (List α) :=
  if start ≤ stop ∧ stop.toNat ≤ items.length then
    some ((items.take stop.toNat).drop start.toNat)
  else none

/-! ## Slots -/

/-- The slots of a collection in the order of what they hold. Slots whose items compare equal keep
their order. -/
def sortedSlots {α : Type} (comparison : α → α → Ordering) (items : List α) :
    List (Fin items.length) :=
  (List.finRange items.length).mergeSort fun a b => comparison (items.get a) (items.get b) != .gt

/-- A pager as it is kept. -/
structure SlotPager (α : Type) where
  items : List α
  noun : Noun
  comparison : Option (α → α → Ordering)
  /-- The slots in presentation order, once they have been worked out. -/
  order : Option (List (Fin items.length))
  pageSize : UInt64
  overflow : OverflowMode

namespace SlotPager

variable {α : Type}

def ofList (items : List α) (noun : Noun) : SlotPager α where
  items := items
  noun := noun
  comparison := none
  order := none
  pageSize := Settings.default.maxPageNodes
  overflow := Settings.default.overflow

def withPageSize (pager : SlotPager α) (size : UInt64) : SlotPager α :=
  { pager with pageSize := max size 1 }

def withOverflow (pager : SlotPager α) (overflow : OverflowMode) : SlotPager α :=
  { pager with overflow := overflow }

def withSettings (pager : SlotPager α) (settings : Settings) : SlotPager α :=
  { pager with pageSize := max settings.maxPageNodes 1, overflow := settings.overflow }

/-- Declares another comparison, for which the order has yet to be worked out. -/
def sortedBy (pager : SlotPager α) (comparison : α → α → Ordering) : SlotPager α :=
  { pager with comparison := some comparison, order := none }

def size (pager : SlotPager α) : UInt64 :=
  UInt64.ofNat pager.items.length

/-- The slots in presentation order, unless that is the order of the collection. What had to be
worked out is kept. -/
def ordered (pager : SlotPager α) : Option (List (Fin pager.items.length)) × SlotPager α :=
  match pager.comparison with
  | none => (none, pager)
  | some comparison =>
      match pager.order with
      | some order => (some order, pager)
      | none =>
          let order := sortedSlots comparison pager.items
          (some order, { pager with order := some order })

/-- The items that slots hold. -/
def held (pager : SlotPager α) (slots : List (Fin pager.items.length)) : List α :=
  slots.map pager.items.get

/-- The item at a position of the presentation order. -/
def get? (pager : SlotPager α) (position : UInt64) : Option α × SlotPager α :=
  let (order, later) := pager.ordered
  match order with
  | some order => (order[position.toNat]?.map pager.items.get, later)
  | none => (pager.items[position.toNat]?, later)

/-- At most `size` items from position `start` on. Only the stretch that is shown is read. -/
def page (pager : SlotPager α) (start size : UInt64) : Option (Page α) × SlotPager α :=
  let start := min start pager.size
  let stop := min (saturatingSum start size) pager.size
  let (order, later) := pager.ordered
  let items :=
    match order with
    | some order => (stretch? order start stop).map pager.held
    | none => stretch? pager.items start stop
  (items.map fun items => ⟨start.toNat, items, pager.size.toNat⟩, later)

def window (pager : SlotPager α) (start stop : UInt64) : Option (Page α) × SlotPager α :=
  match difference? stop start with
  | some length => pager.page start length
  | none => (none, pager)

/-- Windows of one page each that cover everything. The end of a window is worked out before it is
cut down to the end of the collection. -/
def windows (pager : SlotPager α) : Option (List Window) := do
  let starts ← stepped? pager.size pager.pageSize
  starts.mapM fun start => do
    let stop ← sum? start pager.pageSize
    return ⟨start.toNat, (min stop pager.size).toNat, pager.noun⟩

def present (pager : SlotPager α) : Option (Presentation α) × SlotPager α :=
  let (first, later) := pager.page 0 pager.pageSize
  let shown := do
    let first ← first
    if pager.size ≤ pager.pageSize then return .full first
    match pager.overflow with
    | .truncate =>
        let remaining ← difference? pager.size (UInt64.ofNat first.items.length)
        return .truncated first ⟨remaining.toNat, pager.noun⟩
    | .windows =>
        let windows ← pager.windows
        return .windowed ⟨first.items.length, pager.noun⟩ first windows
  (shown, later)

end SlotPager

end Retention.Paging
