/-!
# Double-precision numbers

A double is kept as its 64 bits. Arithmetic is exact arithmetic on ratios of natural
numbers followed by one rounding, to the nearest double and on a tie to the even one,
so every operation here is a plain function on bits.
-/

namespace Retention

/-- A double-precision number, by its bits: a sign, eleven bits of exponent and
fifty-two of fraction. -/
structure Binary64 where
  bits : UInt64
deriving DecidableEq, Inhabited, Repr

/-- The integer nearest to `num / den`; of two equally near ones the even one. -/
def roundHalfEven (num den : Nat) : Nat :=
  let quotient := num / den
  let twice := 2 * (num % den)
  if twice < den then quotient
  else if den < twice then quotient + 1
  else quotient + quotient % 2

namespace Binary64

/-- The bits of positive infinity; all larger magnitudes are not numbers. -/
def infinityBits : Nat :=
  0x7FF0000000000000

/-- The sign bit, above all magnitudes. -/
def signBit : Nat :=
  0x8000000000000000

/-- The leading bit of the significand of a normal double. It is not stored. -/
def leadingBit : Nat :=
  0x10000000000000

/-- The exponent of the leading bit of `num / den`, for positive `num` and `den`. -/
def leadingExponent (num den : Nat) : Int :=
  -- Cutting both logarithms down leaves the guess right or one too high.
  let guess := (num.log2 : Int) - den.log2
  let reaches := den <<< guess.toNat ≤ num <<< (-guess).toNat
  if reaches then guess else guess - 1

/-- The bits of the non-negative double nearest to `num / den`. The last place is worth
`2 ^ unit`, where `unit` leaves fifty-three significant bits and never goes below the
place of the least subnormal. Counting doubles upward from zero makes a carry out of
the fraction land in the exponent, so no case is needed for it. -/
def nearestBits (num den : Nat) : Nat :=
  if num = 0 then 0
  else
    let unit := max (leadingExponent num den - 52) (-1074)
    let significand := roundHalfEven (num <<< (-unit).toNat) (den <<< unit.toNat)
    min ((unit + 1074).toNat * leadingBit + significand) infinityBits

/-- The double with the given sign and magnitude bits. -/
def ofMagnitude (negative : Bool) (magnitude : Nat) : Binary64 :=
  ⟨UInt64.ofNat (magnitude + if negative then signBit else 0)⟩

/-- The double nearest to `num / den`, or to its negative. -/
def ofRatio (negative : Bool) (num den : Nat) : Binary64 :=
  ofMagnitude negative (nearestBits num den)

def ofNat (n : Nat) : Binary64 :=
  ofRatio false n 1

def isNegative (x : Binary64) : Bool :=
  signBit ≤ x.bits.toNat

def magnitude (x : Binary64) : Nat :=
  x.bits.toNat % signBit

/-- Whether the double is a number, neither infinite nor undefined. -/
def isFinite (x : Binary64) : Bool :=
  x.magnitude < infinityBits

/-- The significand of a finite double, an integer below `2 ^ 53`. -/
def significand (x : Binary64) : Nat :=
  if x.magnitude < leadingBit then x.magnitude else leadingBit + x.magnitude % leadingBit

/-- The exponent of two that the significand of a finite double is scaled by. -/
def exponent (x : Binary64) : Int :=
  max (x.magnitude / leadingBit : Nat) 1 - 1075

/-- The numerator of the magnitude of a finite double, over `denominator`. -/
def numerator (x : Binary64) : Nat :=
  x.significand <<< x.exponent.toNat

/-- The denominator of the magnitude of a finite double, a power of two. -/
def denominator (x : Binary64) : Nat :=
  1 <<< (-x.exponent).toNat

def mul (x y : Binary64) : Binary64 :=
  ofRatio (x.isNegative != y.isNegative)
    (x.numerator * y.numerator) (x.denominator * y.denominator)

/-- The rounded quotient of two finite doubles, the second of which is not zero. -/
def div (x y : Binary64) : Binary64 :=
  ofRatio (x.isNegative != y.isNegative)
    (x.numerator * y.denominator) (x.denominator * y.numerator)

def one : Binary64 :=
  ⟨0x3FF0000000000000⟩

/-- The smaller of two non-negative doubles. Such doubles are ordered as their bits. -/
def minNonneg (x y : Binary64) : Binary64 :=
  if y.bits < x.bits then y else x

/-- The double nearest to `coefficient * 10 ^ exponent`, or to its negative. Magnitudes
far outside the range of doubles are settled by their number of digits, so that no
needless power of ten is computed. -/
def ofDecimal (negative : Bool) (coefficient : Nat) (exponent : Int) : Binary64 :=
  let scale := (Nat.toDigits 10 coefficient).length + exponent
  if coefficient = 0 ∨ scale < -325 then ofMagnitude negative 0
  else if 310 < scale then ofMagnitude negative infinityBits
  else ofRatio negative (coefficient * Nat.pow 10 exponent.toNat) (Nat.pow 10 (-exponent).toNat)

end Binary64

end Retention
