/-!
# Ranges of characters

Properties of characters are kept as ascending lists of code point ranges.
-/

namespace Retention.Text

/-- Whether a character lies in one of the ranges, each given by its first and its last
code point. -/
def inRanges (ranges : List (Nat × Nat)) (c : Char) : Bool :=
  ranges.any fun (first, last) => first ≤ c.toNat && c.toNat ≤ last

/-- Whether ranges ascend without touching one another. -/
def areAscending : List (Nat × Nat) → Bool
  | [] => true
  | [(first, last)] => first ≤ last
  | (first, last) :: (next, nextLast) :: rest =>
      first ≤ last && last + 1 < next && areAscending ((next, nextLast) :: rest)

end Retention.Text
