/-!
# Words

Sizes and positions are words of 64 bits. A sum that does not fit a word and a difference below zero
have no answer, unless the sum is to stop at the greatest word.
-/

namespace Retention.Word

/-- The sum of two words, if it fits a word. -/
def sum? (a b : UInt64) : Option UInt64 :=
  if a.toNat + b.toNat < UInt64.size then some (a + b) else none

/-- The sum of two words, or the greatest word if the sum does not fit. -/
def saturatingSum (a b : UInt64) : UInt64 :=
  (sum? a b).getD 18446744073709551615

def difference? (a b : UInt64) : Option UInt64 :=
  if b ≤ a then some (a - b) else none

theorem sum?_of_lt {a b : UInt64} (hfits : a.toNat + b.toNat < UInt64.size) :
    sum? a b = some (a + b) :=
  if_pos hfits

theorem toNat_of_sum? {a b c : UInt64} (hsum : sum? a b = some c) :
    c.toNat = a.toNat + b.toNat := by
  unfold sum? at hsum
  split at hsum
  next hfits =>
    cases hsum
    rw [UInt64.toNat_add]
    exact Nat.mod_eq_of_lt hfits
  next => cases hsum

theorem toNat_saturatingSum (a b : UInt64) :
    (saturatingSum a b).toNat = min (a.toNat + b.toNat) (UInt64.size - 1) := by
  unfold saturatingSum
  cases hsum : sum? a b with
  | some c =>
      have hc := toNat_of_sum? hsum
      have hlt := c.toNat_lt_size
      rw [Option.getD_some]
      omega
  | none =>
      have hoverflows : ¬ a.toNat + b.toNat < UInt64.size := by
        intro hfits
        rw [sum?_of_lt hfits] at hsum
        cases hsum
      have hgreatest : (18446744073709551615 : UInt64).toNat = UInt64.size - 1 := rfl
      rw [Option.getD_none, hgreatest]
      omega

theorem difference?_of_le {a b : UInt64} (hle : b.toNat ≤ a.toNat) :
    ∃ c, difference? a b = some c ∧ c.toNat = a.toNat - b.toNat := by
  have hle : b ≤ a := UInt64.le_iff_toNat_le.mpr hle
  exact ⟨a - b, if_pos hle, UInt64.toNat_sub_of_le a b hle⟩

end Retention.Word
