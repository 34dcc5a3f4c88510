import Retention.Yaml.Core

/-!
# Numbers in digits

A number is written in decimal digits without needless zeros in front, and what it is
written as is read back as the number.
-/

namespace Retention

namespace Text

theorem hexDigit?_of_isDigit {c : Char} (hc : c.isDigit = true) :
    hexDigit? c = some (c.toNat - '0'.toNat) ∧ c.toNat - '0'.toNat < 10 := by
  simp only [Char.isDigit, Bool.and_eq_true, decide_eq_true_eq] at hc
  obtain ⟨hlow, hhigh⟩ := hc
  refine ⟨if_pos ⟨hlow, hhigh⟩, ?_⟩
  have htoNat : c.toNat ≤ 57 := hhigh
  have hzero : '0'.toNat = 48 := rfl
  omega

/-- Decimal digits are read as the number that they denote. -/
theorem numberFrom?_digits {digits : List Char} (hdigits : ∀ c ∈ digits, c.isDigit = true)
    (value : Nat) : numberFrom? 10 value digits = some (Nat.ofDigitChars 10 digits value) := by
  induction digits generalizing value with
  | nil => rfl
  | cons c rest ih =>
      obtain ⟨hdigit, hlt⟩ := hexDigit?_of_isDigit (hdigits c List.mem_cons_self)
      have hrest := ih (fun d hd => hdigits d (List.mem_cons_of_mem _ hd))
        (value * 10 + (c.toNat - '0'.toNat))
      simp only [numberFrom?, hdigit, hlt, if_true, hrest]
      rw [Nat.mul_comm value 10]
      rfl

theorem isDigit_of_mem_repr {n : Nat} {c : Char} (hc : c ∈ n.repr.toList) : c.isDigit = true := by
  rw [Nat.toList_repr] at hc
  exact Nat.isDigit_of_mem_toDigits (by decide) (by decide) hc

theorem repr_ne_nil (n : Nat) : n.repr.toList ≠ [] := by
  simp [Nat.toList_repr]

theorem number?_repr (n : Nat) : number? 10 n.repr.toList = some n := by
  obtain ⟨c, rest, htext⟩ := List.exists_cons_of_ne_nil (repr_ne_nil n)
  have hdigits : ∀ c ∈ n.repr.toList, c.isDigit = true := fun _ => isDigit_of_mem_repr
  have hread := numberFrom?_digits hdigits 0
  rw [Nat.toList_repr, Nat.ofDigitChars_toDigits (by decide) (by decide), ← Nat.toList_repr]
    at hread
  rw [htext] at hread ⊢
  exact hread

/-- A positive number does not start with a zero. -/
theorem head?_repr {n : Nat} (hn : 0 < n) : n.repr.toList.head? ≠ some '0' := by
  rw [Nat.toList_repr]
  induction n using Nat.strongRecOn with
  | ind n ih =>
      rw [Nat.toDigits_eq_if (by decide)]
      split
      next hsmall =>
        have hdigit : ∀ m, m < 10 → 0 < m → Nat.digitChar m ≠ '0' := by decide
        simpa using hdigit n hsmall hn
      next hlarge =>
        have hquotient := ih (n / 10) (by omega) (by omega)
        have hsome : Nat.toDigits 10 (n / 10) ≠ [] := by simp
        obtain ⟨c, rest, hdigits⟩ := List.exists_cons_of_ne_nil hsome
        rw [hdigits] at hquotient ⊢
        exact hquotient

end Text

namespace Yaml.Core

/-- A text that starts with a digit has no sign. -/
theorem withoutSign_digits {c : Char} (hc : c.isDigit = true) (rest : List Char) :
    withoutSign (c :: rest) = c :: rest := by
  unfold withoutSign
  split
  next heq =>
    cases heq
    cases hc
  next heq =>
    cases heq
    cases hc
  next => rfl

/-- The digits of a number are a lone zero or start with another digit. -/
theorem repr_cases (n : Nat) :
    n.repr.toList = ['0'] ∨
      ∃ c rest, n.repr.toList = c :: rest ∧ c.isDigit = true ∧ c ≠ '0' := by
  rcases Nat.eq_zero_or_pos n with rfl | hpos
  · exact Or.inl rfl
  · obtain ⟨c, rest, htext⟩ := List.exists_cons_of_ne_nil (Text.repr_ne_nil n)
    have hhead := Text.head?_repr hpos
    have hc : c.isDigit = true := Text.isDigit_of_mem_repr (by rw [htext]; exact List.mem_cons_self)
    rw [htext] at hhead
    exact Or.inr ⟨c, rest, htext, hc, fun hzero => hhead (congrArg some hzero)⟩

theorem hasLeadingZeros_repr (n : Nat) : hasLeadingZeros n.repr.toList = false := by
  rcases repr_cases n with htext | ⟨c, rest, htext, hc, hzero⟩
  · rw [htext]
    rfl
  · rw [htext, hasLeadingZeros, withoutSign_digits hc]
    split
    next heq =>
      cases heq
      exact absurd rfl hzero
    next => rfl

theorem magnitude?_repr (n : Nat) : magnitude? n.repr.toList = some n := by
  have hleading := hasLeadingZeros_repr n
  have hnumber := Text.number?_repr n
  rcases repr_cases n with htext | ⟨c, rest, htext, hc, hzero⟩
  · rw [htext] at hnumber hleading ⊢
    exact hnumber
  · rw [htext] at hnumber hleading ⊢
    unfold magnitude?
    split
    iterate 3
      next heq =>
        cases heq
        exact absurd rfl hzero
    next => rw [hleading, if_neg Bool.false_ne_true, hnumber]

theorem unsigned?_repr {n : Nat} (hn : n < UInt64.size) : unsigned? n.repr.toList = some n := by
  have hmagnitude := magnitude?_repr n
  have hfits : n < 1 <<< 128 := Nat.lt_trans hn (by decide)
  have hfilter : (some n).filter (· < 1 <<< 128) = some n :=
    Option.filter_eq_some_iff.mpr ⟨rfl, decide_eq_true hfits⟩
  unfold unsigned?
  split
  next rest htext =>
    have hplus : '+'.isDigit = true := Text.isDigit_of_mem_repr (by rw [htext]; simp)
    cases hplus
  next => rw [hmagnitude, hfilter]

end Yaml.Core

end Retention
