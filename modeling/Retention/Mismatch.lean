import Retention.Binary64.Shortest
import Retention.Text.Quoted

/-!
# Mismatches

A document may be well formed and still not describe the value that is asked of it.
A mismatch says what was found in which place of what; the formats share its wording
except for two details, which a `Wording` decides.
-/

namespace Retention

/-- The details in which formats describe what was found differently. -/
structure Wording where
  /-- The name of the value that stands for nothing. -/
  nothing : String
  /-- How the digits of a double are laid out. -/
  real : FloatStyle
deriving Repr

/-- What was found in a document. -/
inductive Finding where
  | nothing
  | boolean (value : Bool)
  | integer (value : Int)
  | real (value : Binary64)
  | text (value : String)
  | sequence
  | mapping
  | unitVariant
deriving DecidableEq, Repr

namespace Finding

/-- Integers beyond sixty-four bits are marked with the width that holds them. -/
def widthMark (value : Int) : String :=
  if UInt64.size ≤ value then " as u128"
  else if value < Int64.minValue.toInt then " as i128"
  else ""

def describe (wording : Wording) : Finding → String
  | .nothing => wording.nothing
  | .boolean value => "boolean `" ++ (if value then "true" else "false") ++ "`"
  | .integer value => "integer `" ++ toString value ++ "`" ++ widthMark value
  | .real value => "floating point `" ++ wording.real.format value ++ "`"
  | .text value => "string " ++ Text.quoted value
  | .sequence => "sequence"
  | .mapping => "map"
  | .unitVariant => "unit variant"

end Finding

/-- Why a well-formed document does not describe the value asked of it. -/
inductive Mismatch where
  /-- A value of a wrong kind. -/
  | invalidType (found : Finding) (expected : String)
  /-- A value of the right kind out of its range. -/
  | invalidValue (found : Finding) (expected : String)
  /-- A sequence of the wrong length. -/
  | invalidLength (count : Nat) (expected : String)
  | missingField (name : String)
  | duplicateField (name : String)
  | unknownField (name : String) (known : List String)
  | unknownVariant (name : String) (known : List String)
deriving DecidableEq, Repr

namespace Mismatch

def ticked (name : String) : String :=
  "`" ++ name ++ "`"

/-- The phrase for a choice of names: one, one or the other, or one of a list. -/
def oneOf : List String → String
  | [] => "nothing"
  | [name] => ticked name
  | [first, second] => ticked first ++ " or " ++ ticked second
  | names => "one of " ++ ", ".intercalate (names.map ticked)

def message (wording : Wording) : Mismatch → String
  | .invalidType found expected =>
      "invalid type: " ++ found.describe wording ++ ", expected " ++ expected
  | .invalidValue found expected =>
      "invalid value: " ++ found.describe wording ++ ", expected " ++ expected
  | .invalidLength count expected =>
      "invalid length " ++ count.repr ++ ", expected " ++ expected
  | .missingField name => "missing field " ++ ticked name
  | .duplicateField name => "duplicate field " ++ ticked name
  | .unknownField name known =>
      "unknown field " ++ ticked name ++ ", expected " ++ oneOf known
  | .unknownVariant name known =>
      "unknown variant " ++ ticked name ++ ", expected " ++ oneOf known

end Mismatch

end Retention
