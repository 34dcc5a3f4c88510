import Retention.Paging.Label
import Retention.Settings

/-!
# Paging

A collection is shown in one order, in pages of that order. The order is the order of
the collection itself, or the stable sort of it by the comparison declared last. A
collection that fits on one page is presented whole; a larger one as its first page and
the number of items left out, or as a sample page and windows that cover everything.
-/

namespace Retention.Paging

/-- A stretch of a presented collection. -/
structure Page (α : Type) where
  /-- The position of the first item. -/
  start : Nat
  items : List α
  /-- The size of the whole collection. -/
  total : Nat
deriving DecidableEq, Repr

namespace Page

variable {α : Type}

def stop (page : Page α) : Nat :=
  page.start + page.items.length

def hasMore (page : Page α) : Bool :=
  page.stop < page.total

end Page

/-- How a collection is shown. -/
inductive Presentation (α : Type) where
  /-- Everything is on one page. -/
  | full (page : Page α)
  /-- The first page, and a marker for the rest. -/
  | truncated (page : Page α) (more : MoreMarker)
  /-- A labelled sample page, and windows over the whole collection. -/
  | windowed (marker : SampleMarker) (sample : Page α) (windows : List Window)
deriving DecidableEq, Repr

/-- A collection together with the way it is to be shown. -/
structure Pager (α : Type) where
  items : List α
  noun : Noun
  /-- The comparison that orders the items, if one was declared. -/
  comparison : Option (α → α → Ordering)
  pageSize : Nat
  overflow : OverflowMode
  pageSize_pos : 0 < pageSize

namespace Pager

variable {α : Type}

/-- A pager over a collection in its own order, with the default page size. -/
def ofList (items : List α) (noun : Noun) : Pager α where
  items := items
  noun := noun
  comparison := none
  pageSize := Settings.default.maxPageNodes.toNat
  overflow := Settings.default.overflow
  pageSize_pos := by decide

/-- Sets the page size. A page holds at least one item, so a size of zero counts as one. -/
def withPageSize (pager : Pager α) (size : Nat) : Pager α :=
  { pager with pageSize := max size 1, pageSize_pos := by omega }

/-- Sets how a collection larger than a page is presented. -/
def withOverflow (pager : Pager α) (overflow : OverflowMode) : Pager α :=
  { pager with overflow := overflow }

/-- Takes the page size and the overflow mode from settings. -/
def withSettings (pager : Pager α) (settings : Settings) : Pager α :=
  (pager.withPageSize settings.maxPageNodes.toNat).withOverflow settings.overflow

/-- Declares the comparison that orders the items, in place of any earlier one. -/
def sortedBy (pager : Pager α) (comparison : α → α → Ordering) : Pager α :=
  { pager with comparison := some comparison }

def size (pager : Pager α) : Nat :=
  pager.items.length

def isEmpty (pager : Pager α) : Bool :=
  pager.items.isEmpty

/-- The items in presentation order. Items that compare equal keep their order. -/
def arranged (pager : Pager α) : List α :=
  match pager.comparison with
  | none => pager.items
  | some comparison => pager.items.mergeSort fun a b => comparison a b != .gt

/-- The item at a position of the presentation order. -/
def get? (pager : Pager α) (position : Nat) : Option α :=
  pager.arranged[position]?

/-- At most `size` items from position `start` on. A start beyond the end counts as the
end. -/
def page (pager : Pager α) (start size : Nat) : Page α :=
  let start := min start pager.size
  ⟨start, (pager.arranged.drop start).take size, pager.size⟩

def window (pager : Pager α) (window : Window) : Page α :=
  pager.page window.start window.length

/-- Windows of one page each, the last one perhaps shorter, that cover everything. -/
def windows (pager : Pager α) : List Window :=
  (List.range ((pager.size + pager.pageSize - 1) / pager.pageSize)).map fun number =>
    let start := number * pager.pageSize
    -- Only the last window can be cut short by the end of the collection.
    ⟨start, min (start + pager.pageSize) pager.size, pager.noun⟩

def present (pager : Pager α) : Presentation α :=
  let first := pager.page 0 pager.pageSize
  if pager.size ≤ pager.pageSize then .full first
  else
    match pager.overflow with
    | .truncate => .truncated first ⟨pager.size - first.items.length, pager.noun⟩
    | .windows => .windowed ⟨first.items.length, pager.noun⟩ first pager.windows

/-- A one-line summary for logs, which leaves the items out. -/
def summary (pager : Pager α) : String :=
  let overflow :=
    match pager.overflow with
    | .truncate => "Truncate"
    | .windows => "Windows"
  let noun :=
    match pager.noun with
    | .gcRoots => "GcRoots"
    | .instances => "Instances"
    | .steps => "Steps"
  let sorted := if pager.comparison.isSome then "true" else "false"
  "NodeBatcher \x7b len: " ++ pager.size.repr ++ ", sorted: " ++ sorted
    ++ ", max_page_nodes: " ++ pager.pageSize.repr ++ ", overflow: " ++ overflow
    ++ ", noun: " ++ noun ++ ", .. \x7d"

end Pager

end Retention.Paging
