import Mathlib.Tactic.Common
import Mathlib.Tactic.IntervalCases
import ClassScribe.Number.Layout

/-! # Decimal digits

The digits of natural numbers: how many there are, what they are worth, and zeros at their end. -/

namespace ClassScribe

variable {n k : Nat} {c : Char}

theorem isDigit_of_mem_digitsOf (h : c ∈ digitsOf n) : c.isDigit = true :=
  Nat.isDigit_of_mem_toDigits (by decide) (by decide) h

theorem digitsOf_ne_nil (n : Nat) : digitsOf n ≠ [] := Nat.toDigits_ne_nil

theorem foldl_digitsOf (n : Nat) : (digitsOf n).foldl (fun m c => m * 10 + (c.toNat - 48)) 0 = n := by
  have h := Nat.ofDigitChars_ten_toDigits (n := n)
  rw [Nat.ofDigitChars_eq_foldl] at h
  unfold digitsOf
  conv_rhs => rw [← h]
  congr 1
  funext m c
  rw [Nat.mul_comm]
  rfl

theorem length_digitsOf_le_iff (hk : 0 < k) : (digitsOf n).length ≤ k ↔ n < 10 ^ k :=
  Nat.length_toDigits_le_iff (by decide) hk

/-- A number is less than the power of ten with as many zeros as it has digits. -/
theorem lt_pow_length_digitsOf (n : Nat) : n < 10 ^ (digitsOf n).length :=
  (length_digitsOf_le_iff Nat.length_toDigits_pos).mp le_rfl

theorem pow_le_of_lt_length (h : k < (digitsOf n).length) (hk : 0 < k) : 10 ^ k ≤ n := by
  rw [← not_lt, ← length_digitsOf_le_iff hk]
  omega

/-- A number that is not zero has as many digits as the power of ten below it. -/
theorem pow_length_sub_one_le (hn : 0 < n) : 10 ^ ((digitsOf n).length - 1) ≤ n := by
  rcases Nat.eq_zero_or_pos ((digitsOf n).length - 1) with hzero | hpos
  · rw [hzero]
    exact hn
  · exact pow_le_of_lt_length (by omega) hpos

theorem digitsOf_mul_ten (hn : 0 < n) : digitsOf (n * 10) = digitsOf n ++ ['0'] := by
  have happend := @Nat.toDigits_append_toDigits 10 n 0 (by decide) hn (by decide)
  rw [Nat.toDigits_zero, Nat.add_zero, Nat.mul_comm] at happend
  exact happend.symm

/-- A power of ten puts zeros at the end. -/
theorem digitsOf_mul_pow (hn : 0 < n) (k : Nat) :
    digitsOf (n * 10 ^ k) = digitsOf n ++ List.replicate k '0' := by
  induction k with
  | zero => simp
  | succ k ih =>
      have hpos : 0 < n * 10 ^ k := Nat.mul_pos hn (Nat.pow_pos (by decide))
      rw [pow_succ, ← Nat.mul_assoc, digitsOf_mul_ten hpos, ih, List.append_assoc,
        List.replicate_succ']

theorem head?_digitsOf_ne (hn : 0 < n) : (digitsOf n).head? ≠ some '0' := by
  induction n using Nat.strongRecOn with
  | ind n ih =>
      rcases Nat.lt_or_ge n 10 with hlt | hge
      · rw [digitsOf, Nat.toDigits_of_lt_base hlt]
        interval_cases n <;> decide
      · have hdiv : 0 < n / 10 := Nat.div_pos hge (by decide)
        have hfirst := ih (n / 10) (by omega) hdiv
        obtain ⟨c, ds, hds⟩ := List.exists_cons_of_ne_nil (digitsOf_ne_nil (n / 10))
        rw [hds] at hfirst
        rw [digitsOf, Nat.toDigits_of_base_le (by decide) hge]
        change (digitsOf (n / 10) ++ _).head? ≠ _
        rw [hds]
        exact hfirst

end ClassScribe
