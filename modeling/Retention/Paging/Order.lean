/-!
# Orders for collections

Comparisons that a collection of numbers or texts may be declared to be arranged by.
-/

namespace Retention.Paging

/-- An order of integers. -/
inductive NumberOrder where
  | ascending
  | descending
  /-- By the last digit, counted upward for negative numbers too. -/
  | lastDigit
  | magnitude
  /-- All numbers are equal. -/
  | indifferent
deriving DecidableEq, Repr

def NumberOrder.comparison : NumberOrder → Int → Int → Ordering
  | .ascending, a, b => compare a b
  | .descending, a, b => compare b a
  | .lastDigit, a, b => compare (a.emod 10) (b.emod 10)
  | .magnitude, a, b => compare a.natAbs b.natAbs
  | .indifferent, _, _ => .eq

/-- An order of texts. -/
inductive TextOrder where
  /-- By code points, which is also the order of the encoded bytes. -/
  | ascending
  | descending
  /-- By the number of encoded bytes. -/
  | shortest
  | longest
deriving DecidableEq, Repr

def TextOrder.comparison : TextOrder → String → String → Ordering
  | .ascending, a, b => compare a b
  | .descending, a, b => compare b a
  | .shortest, a, b => compare a.utf8ByteSize b.utf8ByteSize
  | .longest, a, b => compare b.utf8ByteSize a.utf8ByteSize

end Retention.Paging
