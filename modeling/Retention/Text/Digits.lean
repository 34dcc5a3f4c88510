/-!
# Digits

The values of decimal and hexadecimal digits, and of numbers written with them.
-/

namespace Retention.Text

def hexDigit? (c : Char) : Option Nat :=
  if '0' ≤ c ∧ c ≤ '9' then some (c.toNat - '0'.toNat)
  else if 'a' ≤ c ∧ c ≤ 'f' then some (c.toNat - 'a'.toNat + 10)
  else if 'A' ≤ c ∧ c ≤ 'F' then some (c.toNat - 'A'.toNat + 10)
  else none

/-- Reads on in a number of the given base, of which `value` has been read. -/
def numberFrom? (base : Nat) : Nat → List Char → Option Nat
  | value, [] => some value
  | value, c :: rest =>
      match hexDigit? c with
      | some digit =>
          if digit < base then numberFrom? base (value * base + digit) rest else none
      | none => none

/-- The number that digits of the given base denote. There has to be at least one. -/
def number? (base : Nat) : List Char → Option Nat
  | [] => none
  | digits => numberFrom? base 0 digits

end Retention.Text
