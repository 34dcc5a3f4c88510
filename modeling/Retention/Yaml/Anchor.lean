import Retention.Yaml.Document

/-!
# Anchors

An alias stands for the node that was anchored. Anchors are numbered by how many names
were known when they came up, so an anchor that redefines a name shares its number with
the next new one, and an alias leads to the last node of its number.
-/

namespace Retention.Yaml

/-- The names known so far with their numbers, and the anchored nodes by number, latest
first. -/
structure Anchors where
  /-- The number of different names. -/
  known : Nat
  numbers : List (String × Nat)
  heads : List (Nat × Head)
deriving Repr

namespace Anchors

def none : Anchors :=
  ⟨0, [], []⟩

def add (anchors : Anchors) (name : String) (head : Head) : Anchors where
  known := if (anchors.numbers.lookup name).isSome then anchors.known else anchors.known + 1
  numbers := (name, anchors.known) :: anchors.numbers
  heads := (anchors.known, head) :: anchors.heads

def note (anchors : Anchors) (anchor : Option String) (head : Head) : Anchors :=
  anchor.elim anchors fun name => anchors.add name head

end Anchors

/-- A node whose alias is a number. -/
inductive NumberedNode where
  | head (head : Head)
  | alias (number : Nat) (mark : Mark)
deriving DecidableEq, Repr

/-- The outer nodes of a document with their aliases numbered, and all its anchors. -/
structure Numbered where
  nodes : List NumberedNode
  anchors : Anchors
  /-- An alias without an anchor. Nothing behind it is known. -/
  unknown : Option Fault
deriving Repr

def Numbered.behind (node : NumberedNode) (isOuter : Bool) (numbered : Numbered) : Numbered :=
  if isOuter then { numbered with nodes := node :: numbered.nodes } else numbered

/-- Gives each alias the number of its anchor. Stops at an alias that has none. -/
def Numbered.ofNodes : List Placed → Anchors → Numbered
  | [], anchors => ⟨[], anchors, none⟩
  | ⟨.head anchor head, isOuter⟩ :: rest, anchors =>
      (ofNodes rest (anchors.note anchor head)).behind (.head head) isOuter
  | ⟨.alias name mark, isOuter⟩ :: rest, anchors =>
      match anchors.numbers.lookup name with
      | some number => (ofNodes rest anchors).behind (.alias number mark) isOuter
      | none => ⟨[], anchors, some ⟨"unknown anchor", mark⟩⟩

end Retention.Yaml
