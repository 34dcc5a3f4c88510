import Retention.Json

/-!
# JSON numbers

The value of a number from its written parts. A number without fraction and exponent is
an integer if it fits into sixty-four bits. Any other is a double: as many digits as fit
into an unsigned sixty-four bit significand, scaled by a power of ten in doubles. The
scaling rounds a second time, so the result may miss the nearest double by a place.
-/

namespace Retention.Json

/-- The written parts of a number. -/
structure NumberParts where
  negative : Bool
  integer : List Nat
  /-- The digits behind the point, if there is one. -/
  fraction : Option (List Nat)
  /-- Whether the exponent is negative, and its digits. -/
  exponent : Option (Bool × List Nat)

/-- Appends digits to a significand while it fits into sixty-four bits. Returns it with
the number of digits that were taken and the digits that were not. -/
def absorb (significand : Nat) : List Nat → Nat × Nat × List Nat
  | [] => (significand, 0, [])
  | digit :: rest =>
      if significand * 10 + digit < UInt64.size then
        let (total, taken, left) := absorb (significand * 10 + digit) rest
        (total, taken + 1, left)
      else (significand, 0, digit :: rest)

/-- The greatest power of ten that a double is scaled by at once. -/
def maxScale : Nat :=
  308

/-- Scales a non-negative double by a power of ten, in steps of at most `maxScale`.
Nothing is returned for a result beyond the doubles. The steps are bounded by `fuel`:
three of them bring any double down to zero. -/
def scale : Nat → Binary64 → Int → Option Binary64
  | 0, x, _ => some x
  | fuel + 1, x, exponent =>
      if exponent.natAbs ≤ maxScale then
        let power := Binary64.ofNat (Nat.pow 10 exponent.natAbs)
        if 0 ≤ exponent then
          let product := x.mul power
          if product.isFinite then some product else none
        else some (x.div power)
      else if x.magnitude = 0 then some x
      else if 0 ≤ exponent then none
      else scale fuel (x.div (Binary64.ofNat (Nat.pow 10 maxScale))) (exponent + maxScale)

def ofDigits (digits : List Nat) : Nat :=
  digits.foldl (fun total digit => total * 10 + digit) 0

def ofNumberParts (parts : NumberParts) : Json :=
  let (whole, _, beyond) := absorb 0 parts.integer
  let signed : Int := if parts.negative then -(whole : Int) else whole
  let isInteger := parts.fraction.isNone && parts.exponent.isNone && beyond.isEmpty
  if isInteger && !(parts.negative && whole == 0) && Int64.minValue.toInt ≤ signed then
    .integer signed
  else
    let (significand, taken, _) := absorb whole (parts.fraction.getD [])
    let written : Int :=
      match parts.exponent with
      | none => 0
      | some (negative, digits) => if negative then -ofDigits digits else ofDigits digits
    let exponent := written + beyond.length - taken
    match scale 8 (Binary64.ofNat significand) exponent with
    | some x => .real (Binary64.ofMagnitude parts.negative x.magnitude)
    | none => .unusable

end Retention.Json
