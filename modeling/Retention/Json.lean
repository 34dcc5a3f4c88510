import Retention.Binary64

/-!
# JSON values

A JSON document as a value. A document is read from left to right, and a problem in it
counts only once the reader gets there; so what is wrong with a document stays in the
value, at its place, and a reader of the value meets it in the order of the document.

Integers that fit into sixty-four bits, signed or unsigned, are exact; all other numbers
are doubles.
-/

namespace Retention

/-- A JSON value, possibly broken off. -/
inductive Json where
  | null
  | bool (value : Bool)
  | integer (value : Int)
  | real (value : Binary64)
  | text (value : String)
  /-- An array; `closed` unless it breaks off after its last item. -/
  | array (items : List Json) (closed : Bool)
  /-- An object; `closed` unless it breaks off after its last member. A key that is not
  a text breaks its object off. -/
  | object (members : List (Json × Json)) (closed : Bool)
  /-- A number beyond the doubles, or a text with half a surrogate pair: it has the form
  of a value and can be skipped, but stands for none. -/
  | unusable
  /-- No value at all. -/
  | malformed

namespace Json

instance : Inhabited Json :=
  ⟨.null⟩

def ofItems (items : List Json) : Json :=
  .array items true

def ofMembers (members : List (String × Json)) : Json :=
  .object (members.map fun (key, value) => (.text key, value)) true

def nat (n : Nat) : Json :=
  .integer n

/-! ## Form -/

mutual

/-- Whether a value has the form of one, so that it can be skipped. -/
def isSkippable : Json → Bool
  | .array items closed => closed && areSkippable items
  | .object members closed => closed && membersAreSkippable members
  | .malformed => false
  | _ => true

def areSkippable : List Json → Bool
  | [] => true
  | item :: rest => item.isSkippable && areSkippable rest

def membersAreSkippable : List (Json × Json) → Bool
  | [] => true
  | (key, value) :: rest =>
      key.isSkippable && value.isSkippable && membersAreSkippable rest

end

mutual

/-- Whether a value is free of problems, with at most `depth` collections inside one
another. -/
def isSound (depth : Nat) : Json → Bool
  | .array items closed => closed && 0 < depth && areSound (depth - 1) items
  | .object members closed => closed && 0 < depth && membersAreSound (depth - 1) members
  | .unusable => false
  | .malformed => false
  | _ => true

def areSound (depth : Nat) : List Json → Bool
  | [] => true
  | item :: rest => item.isSound depth && areSound depth rest

def membersAreSound (depth : Nat) : List (Json × Json) → Bool
  | [] => true
  | (key, value) :: rest =>
      key.isSound depth && value.isSound depth && membersAreSound depth rest

end

end Json

end Retention
