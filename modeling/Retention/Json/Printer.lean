import Retention.Binary64.Shortest
import Retention.Json

/-!
# Writing JSON

The compact form of a document: no white space, members in their order, and in texts
only what must be escaped is escaped.
-/

namespace Retention.Json

def hexDigit (n : Nat) : Char :=
  (Nat.toDigits 16 (n % 16)).headD '0'

/-- A character as it stands in a text. Control characters without a short escape are
escaped by number. -/
def escapeChar (c : Char) : List Char :=
  if c = '\x22' ∨ c = '\\' then ['\\', c]
  else if c = '\x08' then ['\\', 'b']
  else if c = '\x0c' then ['\\', 'f']
  else if c = '\n' then ['\\', 'n']
  else if c = '\r' then ['\\', 'r']
  else if c = '\t' then ['\\', 't']
  else if c.toNat < 0x20 then
    ['\\', 'u', '0', '0', hexDigit (c.toNat / 16), hexDigit c.toNat]
  else [c]

def writeText (text : String) : String :=
  String.ofList ('\x22' :: text.toList.flatMap escapeChar ++ ['\x22'])

mutual

/-- The compact text of a value. What is no value is written as null. -/
def write : Json → String
  | .null => "null"
  | .bool value => if value then "true" else "false"
  | .integer value => toString value
  | .real value => FloatStyle.compact.format value
  | .text value => writeText value
  | .array items _ => "[" ++ ",".intercalate (writeItems items) ++ "]"
  | .object members _ => "\x7b" ++ ",".intercalate (writeMembers members) ++ "\x7d"
  | .unusable => "null"
  | .malformed => "null"

def writeItems : List Json → List String
  | [] => []
  | item :: rest => item.write :: writeItems rest

def writeMembers : List (Json × Json) → List String
  | [] => []
  | (key, value) :: rest => (key.write ++ ":" ++ value.write) :: writeMembers rest

end

end Retention.Json
