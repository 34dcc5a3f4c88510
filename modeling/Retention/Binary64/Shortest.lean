import Retention.Binary64

/-!
# Shortest decimal text of a double

A finite double is written with the fewest digits that read back to it, and of those
with the digits nearest to it. The numbers that read back to a double are an interval
around it, ends included when its significand is even. On a grid of decimal numbers
with a given number of digits, if any point lies in that interval then one of the two
neighbours of the double itself does, so it is enough to try those two on the grids of
one digit, two digits and so on. Seventeen digits always suffice.

How the digits are laid out is a `FloatStyle`.
-/

namespace Retention

/-- The decimal number `coefficient * 10 ^ exponent`. -/
structure Decimal where
  coefficient : Nat
  exponent : Int
deriving DecidableEq, Repr

namespace Decimal

def digits (d : Decimal) : List Char :=
  Nat.toDigits 10 d.coefficient

/-- How many digits stand before the decimal point; zero or less for numbers below
one tenth. -/
def pointPosition (d : Decimal) : Int :=
  d.digits.length + d.exponent

/-- Drops trailing zeros of the coefficient, at most `fuel` of them. -/
def trim : Nat → Decimal → Decimal
  | 0, d => d
  | fuel + 1, d =>
      if d.coefficient % 10 = 0 ∧ d.coefficient ≠ 0 then
        trim fuel ⟨d.coefficient / 10, d.exponent + 1⟩
      else d

end Decimal

namespace Binary64

/-- The least `j` up to `fuel` for which `num * 10 ^ j` reaches `den`. -/
def leadingZeros (den : Nat) : Nat → Nat → Nat
  | 0, _ => 0
  | fuel + 1, num => if den ≤ num then 0 else leadingZeros den fuel (num * 10) + 1

/-- The number of digits before the decimal point of a positive finite double, zero or
less when the double is below one tenth. -/
def integerDigits (x : Binary64) : Int :=
  if x.denominator ≤ x.numerator then
    (Nat.toDigits 10 (x.numerator / x.denominator)).length
  else 1 - leadingZeros x.denominator 330 x.numerator

/-- Whether the decimal `d` reads back to the positive finite double `x`. In quarters of
the last place, the interval around a significand `m` reaches from `4 * m - 2` to
`4 * m + 2`, but only down to `4 * m - 1` where the places below are half as wide. -/
def readsBack (x : Binary64) (d : Decimal) : Bool :=
  let m := x.significand
  let low := if m = leadingBit ∧ 2 * leadingBit ≤ x.magnitude then 4 * m - 1 else 4 * m - 2
  let high := 4 * m + 2
  let scale := Nat.pow 10 (-d.exponent).toNat <<< x.exponent.toNat
  let value := d.coefficient * (4 * x.denominator * Nat.pow 10 d.exponent.toNat)
  if m % 2 = 0 then low * scale ≤ value ∧ value ≤ high * scale
  else low * scale < value ∧ value < high * scale

/-- The better of the two neighbours of `x` on the grid of multiples of `10 ^ exponent`,
if one of them reads back: the nearer one, and on a tie the even one. -/
def onGrid? (x : Binary64) (exponent : Int) : Option Decimal :=
  let num := x.numerator * Nat.pow 10 (-exponent).toNat
  let den := x.denominator * Nat.pow 10 exponent.toNat
  let below : Decimal := ⟨num / den, exponent⟩
  let above : Decimal := ⟨num / den + 1, exponent⟩
  match x.readsBack below, x.readsBack above with
  | true, true => some ⟨roundHalfEven num den, exponent⟩
  | true, false => some below
  | false, true => some above
  | false, false => none

/-- The shortest decimal that reads back, tried from `count` digits upward. -/
def shortestFrom (x : Binary64) : Nat → Nat → Decimal
  | 0, _ => ⟨0, 0⟩
  | fuel + 1, count =>
      match x.onGrid? (x.integerDigits - count) with
      | some d => d.trim 20
      | none => shortestFrom x fuel (count + 1)

/-- The shortest decimal that reads back to the magnitude of a finite double. -/
def shortest (x : Binary64) : Decimal :=
  if x.magnitude = 0 then ⟨0, 0⟩ else shortestFrom x 17 1

end Binary64

/-- A way to lay out the digits of a double. Numbers whose point position lies in the
positional range are written out in full, always with a digit on either side of the
point; all others get an exponent. -/
structure FloatStyle where
  /-- The least point position that is written out; `none` for all. -/
  lowest : Option Int
  /-- The greatest point position that is written out; `none` for all. -/
  highest : Option Int
deriving Repr

namespace FloatStyle

/-- Every number is written out in full. -/
def plain : FloatStyle :=
  ⟨none, none⟩

/-- Numbers from `0.00001` and below `10 ^ 16` are written out in full. -/
def compact : FloatStyle :=
  ⟨some (-4), some 16⟩

/-- Whether a number with this point position is written out in full. -/
def isPositional (style : FloatStyle) (point : Int) : Bool :=
  style.lowest.all (· ≤ point) && style.highest.all (point ≤ ·)

def positional (d : Decimal) : List Char :=
  let point := d.pointPosition
  if 0 ≤ d.exponent then d.digits ++ List.replicate d.exponent.toNat '0' ++ ['.', '0']
  else if 0 < point then d.digits.take point.toNat ++ '.' :: d.digits.drop point.toNat
  else ['0', '.'] ++ List.replicate (-point).toNat '0' ++ d.digits

/-- A decimal with one digit before the point, or no point at all, and an exponent with its
sign. -/
def scientific (d : Decimal) : List Char :=
  let power := d.pointPosition - 1
  let sign := if power < 0 then '-' else '+'
  let mantissa :=
    match d.digits with
    | [] => []
    | [digit] => [digit]
    | digit :: rest => digit :: '.' :: rest
  mantissa ++ 'e' :: sign :: Nat.toDigits 10 power.natAbs

/-- The text of a double: the shortest digits, laid out in the style. -/
def format (style : FloatStyle) (x : Binary64) : String :=
  let sign := if x.isNegative then "-" else ""
  if x.isFinite then
    let d := x.shortest
    let body := if style.isPositional d.pointPosition then positional d else scientific d
    sign ++ String.ofList body
  else if x.magnitude = Binary64.infinityBits then sign ++ "inf"
  else "NaN"

end FloatStyle

end Retention
