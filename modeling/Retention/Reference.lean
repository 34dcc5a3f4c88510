import Retention.Instance

/-!
# References

A reference is a labelled edge of the heap: the field or array slot through which
one object holds another.
-/

namespace Retention

/-- The place inside a referrer that holds a reference. -/
inductive Edge where
  /-- An object field, by the name the snapshot records. -/
  | field (name : String)
  /-- A slot of an object array, counted from zero. -/
  | slot (index : UInt64)
deriving DecidableEq, Repr

/-- A field is shown by its bare name and a slot by its index in brackets, so two
different edges may share one label. -/
def Edge.label : Edge → String
  | .field name => name
  | .slot index => "[" ++ index.toNat.repr ++ "]"

/-- One outgoing reference of an instance. -/
structure Reference where
  edge : Edge
  target : InstanceId
deriving DecidableEq, Repr

/-- The edge of the first reference in `references` that leads to `target`. -/
def Reference.firstTo (target : InstanceId) (references : List Reference) : Option Edge :=
  (references.find? fun reference => reference.target = target).map Reference.edge

end Retention
