import ClassScribe.Proofs.Number.Digits

/-! # Digits of binary numbers

The shortest decimal of a number that is not zero has digits other than zeros: every decimal that is tried
starts with the first digit of the number. -/

namespace ClassScribe.Binary64

variable {x : Binary64} {tie : Tie}

theorem fraction_pos (hx : x.isZero = false) : 0 < x.fraction.1 ∧ 0 < x.fraction.2 := by
  have hm : 0 < x.significand := by
    rw [isZero, beq_eq_false_iff_ne] at hx
    omega
  unfold fraction
  split
  · refine ⟨?_, Nat.one_pos⟩
    rw [Nat.shiftLeft_eq]
    exact Nat.mul_pos hm (Nat.pow_pos (by decide))
  · refine ⟨hm, ?_⟩
    rw [Nat.shiftLeft_eq]
    exact Nat.mul_pos Nat.one_pos (Nat.pow_pos (by decide))

/-- The power of ten of the first digit is not above the number. -/
theorem leadingExponent_le {num den : Nat} (hx : x.fraction = (num, den)) (hnum : 0 < num)
    (hden : 0 < den) : den * 10 ^ x.leadingExponent.toNat ≤ num * 10 ^ (-x.leadingExponent).toNat := by
  unfold leadingExponent
  rw [hx]
  dsimp only
  split
  · next hle =>
      have hpos : 0 < num / den := Nat.div_pos hle hden
      have hlength : 0 < (digitsOf (num / den)).length := Nat.length_toDigits_pos
      unfold decimalLength
      rw [if_neg (by omega), show Nat.toDigits 10 (num / den) = digitsOf (num / den) from rfl]
      rw [show (((digitsOf (num / den)).length : Int) - 1).toNat = (digitsOf (num / den)).length - 1 by omega,
        show (-(((digitsOf (num / den)).length : Int) - 1)).toNat = 0 by omega, pow_zero, Nat.mul_one]
      calc den * 10 ^ ((digitsOf (num / den)).length - 1)
          ≤ den * (num / den) := Nat.mul_le_mul_left _ (pow_length_sub_one_le hpos)
        _ ≤ num := Nat.mul_div_le num den
  · next hlt =>
      -- A decimal shift over all digits of the rounded quotient brings the number above one.
      have hceil : (den + num - 1) / num - 1 < 10 ^ decimalLength ((den + num - 1) / num - 1) := by
        unfold decimalLength
        split
        · next hzero =>
            rw [hzero]
            decide
        · exact lt_pow_length_digitsOf _
      rw [neg_neg, Int.toNat_neg_natCast, Int.toNat_natCast, pow_zero, Nat.mul_one]
      generalize decimalLength ((den + num - 1) / num - 1) = k at hceil ⊢
      have hdiv : (den + num - 1) / num ≤ 10 ^ k := by omega
      have := Nat.div_lt_iff_lt_mul hnum (x := den + num - 1) (y := 10 ^ k + 1)
      have hlt' : den + num - 1 < (10 ^ k + 1) * num := this.mp (by omega)
      rw [Nat.add_mul, Nat.one_mul, Nat.mul_comm] at hlt'
      omega

theorem truncated_pos (hx : x.isZero = false) {scale : Int} (hscale : scale ≤ x.leadingExponent) :
    0 < x.truncated scale := by
  obtain ⟨hnum, hden⟩ := fraction_pos hx
  cases hf : x.fraction with
  | mk num den =>
      rw [hf] at hnum hden
      dsimp only at hnum hden
      have hle := leadingExponent_le hf hnum hden
      generalize x.leadingExponent = lead at hscale hle
      have hpow (k : Nat) : 0 < 10 ^ k := Nat.pow_pos (by decide)
      unfold truncated
      rw [hf]
      dsimp only
      split
      · refine Nat.div_pos ?_ (Nat.mul_pos hden (hpow _))
        rw [show (-lead).toNat = 0 by omega, pow_zero, Nat.mul_one] at hle
        exact (Nat.mul_le_mul_left den (Nat.pow_le_pow_right (by decide) (by omega))).trans hle
      · refine Nat.div_pos ?_ hden
        calc den ≤ den * 10 ^ lead.toNat := Nat.le_mul_of_pos_right _ (hpow _)
          _ ≤ num * 10 ^ (-lead).toNat := hle
          _ ≤ num * 10 ^ (-scale).toNat :=
            Nat.mul_le_mul_left num (Nat.pow_le_pow_right (by decide) (by omega))

theorem pick?_cases {digits d : Nat} {scale : Int} (h : x.pick? tie digits scale = some d) :
    d = digits ∨ d = digits + 1 := by
  unfold pick? at h
  split at h
  · cases h
  · exact .inl (Option.some.inj h).symm
  · exact .inr (Option.some.inj h).symm
  · dsimp only at h
    split at h
    · exact .inl (Option.some.inj h).symm
    · split at h
      · exact .inr (Option.some.inj h).symm
      · split at h
        · exact .inl (Option.some.inj h).symm
        · exact .inr (Option.some.inj h).symm

theorem shortestFrom_pos (hx : x.isZero = false) {counts : List Nat} (hcounts : ∀ n ∈ counts, 0 < n) :
    0 < (x.shortestFrom tie x.leadingExponent counts).1 := by
  induction counts with
  | nil => exact truncated_pos hx (by omega)
  | cons n more ih =>
      obtain ⟨hn, hmore⟩ := List.forall_mem_cons.mp hcounts
      have hpos := @truncated_pos x hx (x.leadingExponent + 1 - n) (by omega)
      rw [shortestFrom]
      split
      · next hpick => rcases pick?_cases hpick with h | h <;> omega
      · exact ih hmore

theorem dropZeros_pos {d : Nat} {scale : Int} (hd : 0 < d) : 0 < (dropZeros d scale).1 := by
  induction d using Nat.strongRecOn generalizing scale with
  | ind d ih =>
      rw [dropZeros]
      split
      · exact ih (d / 10) (by omega) (by omega)
      · exact hd

theorem shortest_pos (tie : Tie) (hx : x.isZero = false) : 0 < (x.shortest tie).1 := by
  have hcounts : ∀ n ∈ (List.range 17).map (· + 1), 0 < n := by decide
  unfold shortest
  exact dropZeros_pos (shortestFrom_pos hx hcounts)

end ClassScribe.Binary64
