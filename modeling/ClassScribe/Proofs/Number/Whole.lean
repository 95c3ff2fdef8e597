import Mathlib.Tactic.Ring
import ClassScribe.Proofs.Number.Digits

/-! # Whole numbers

A natural number below `2 ^ 53` is a binary number, and the shortest decimal of that is the number
itself: a decimal that differs from it differs by one at least, which is more than what rounding puts
together. Up to `2 ^ 64` there is a nearest binary number in any case. -/

namespace ClassScribe.Binary64

variable {x : Binary64} {n d k N : Nat} {tie : Tie}

/-- A number is a natural number without its sign, and its neighbours are no farther from it than one. -/
def Counts (x : Binary64) (n : Nat) : Prop :=
  ∃ j : Nat, x.exponent = -(j : Int) ∧ x.significand = n * 2 ^ j

theorem Counts.fraction_eq (h : x.Counts n) : ∃ j : Nat, x.exponent = -(j : Int) ∧
    x.fraction = (n * 2 ^ j, 2 ^ j) := by
  obtain ⟨j, he, hm⟩ := h
  refine ⟨j, he, ?_⟩
  unfold fraction
  rw [he, hm]
  rcases Nat.eq_zero_or_pos j with rfl | hj
  · rfl
  · rw [if_neg (by omega), Nat.shiftLeft_eq, neg_neg, Int.toNat_natCast, Nat.one_mul]

theorem Counts.middles_eq (h : x.Counts n) : ∃ j below : Nat, (below = 1 ∨ below = 2) ∧
    x.middles = (4 * (n * 2 ^ j) - below, 4 * (n * 2 ^ j) + 2, 4 * 2 ^ j) := by
  obtain ⟨j, he, hfraction⟩ := h.fraction_eq
  have hstep : 1 <<< x.exponent.toNat = 1 := by
    rw [he, Int.toNat_neg_natCast]
    rfl
  unfold middles
  rw [hfraction]
  dsimp only
  rw [hstep]
  refine ⟨j, _, ?_, rfl⟩
  split
  · exact .inl rfl
  · exact .inr rfl

/-- Of the whole decimals only the number itself is read as it. -/
theorem Counts.isReadFrom_eq (h : x.Counts n) (hn : 0 < n) (d k : Nat) :
    x.isReadFrom d k = decide (d * 10 ^ k = n) := by
  obtain ⟨j, below, hbelow, hmiddles⟩ := h.middles_eq
  have hj : 0 < 2 ^ j := Nat.pow_pos (by decide)
  have hdecimal : decimalFraction d k = (d * 10 ^ k, 1) := by
    unfold decimalFraction
    rw [if_pos (Int.natCast_nonneg k), Int.toNat_natCast]
    rfl
  unfold isReadFrom
  rw [hmiddles, hdecimal]
  dsimp only
  generalize d * 10 ^ k = v
  rw [Nat.mul_one, Nat.mul_one]
  have hpos : 0 < n * 2 ^ j := Nat.mul_pos hn hj
  have hcompare : v * (4 * 2 ^ j) = 4 * (v * 2 ^ j) := by ring
  have hlt (h : v < n) : v * 2 ^ j + 2 ^ j ≤ n * 2 ^ j := by
    rw [← Nat.succ_mul]
    exact Nat.mul_le_mul_right _ h
  have hgt (h : n < v) : n * 2 ^ j + 2 ^ j ≤ v * 2 ^ j := by
    rw [← Nat.succ_mul]
    exact Nat.mul_le_mul_right _ h
  have heq (h : v = n) : v * 2 ^ j = n * 2 ^ j := by rw [h]
  rw [hcompare, Bool.eq_iff_iff, decide_eq_true_eq]
  split
  · rw [Bool.and_eq_true, decide_eq_true_eq, decide_eq_true_eq]
    omega
  · rw [Bool.and_eq_true, decide_eq_true_eq, decide_eq_true_eq]
    omega

theorem Counts.truncated_eq (h : x.Counts n) (k : Nat) : x.truncated k = n / 10 ^ k := by
  obtain ⟨j, -, hfraction⟩ := h.fraction_eq
  unfold truncated
  rw [hfraction]
  dsimp only
  rw [if_pos (Int.natCast_nonneg k), Int.toNat_natCast, Nat.mul_comm n]
  exact Nat.mul_div_mul_left _ _ (Nat.pow_pos (by decide))

/-- Some digits are taken just if the others are zeros. -/
theorem Counts.pick?_eq (h : x.Counts n) (hn : 0 < n) (k : Nat) :
    x.pick? tie (n / 10 ^ k) k = if 10 ^ k ∣ n then some (n / 10 ^ k) else none := by
  have hpow : 0 < 10 ^ k := Nat.pow_pos (by decide)
  have habove : ¬(n / 10 ^ k + 1) * 10 ^ k = n := by
    have := Nat.lt_div_mul_add hpow (a := n)
    rw [Nat.add_mul, Nat.one_mul]
    omega
  have hbelow : n / 10 ^ k * 10 ^ k = n ↔ 10 ^ k ∣ n := by
    rw [Nat.dvd_iff_div_mul_eq]
  unfold pick?
  rw [h.isReadFrom_eq hn, h.isReadFrom_eq hn, decide_eq_false habove]
  by_cases hdvd : 10 ^ k ∣ n
  · rw [decide_eq_true (hbelow.mpr hdvd), if_pos hdvd]
  · rw [decide_eq_false (fun he => hdvd (hbelow.mp he)), if_neg hdvd]

theorem Counts.leadingExponent_eq (h : x.Counts n) (hn : 0 < n) :
    x.leadingExponent = (digitsOf n).length - 1 := by
  obtain ⟨j, -, hfraction⟩ := h.fraction_eq
  have hj : 0 < 2 ^ j := Nat.pow_pos (by decide)
  unfold leadingExponent
  rw [hfraction]
  dsimp only
  rw [if_pos (Nat.le_mul_of_pos_left _ hn), Nat.mul_div_cancel _ hj]
  unfold decimalLength
  rw [if_neg (by omega)]
  rfl

/-- More and more digits are tried until what is left of the number are zeros. -/
theorem Counts.shortestFrom_eq (h : x.Counts n) (hn : 0 < n) (more : Nat) :
    ∀ first : Nat, first ≤ N → N < first + more →
      ∃ d k : Nat, x.shortestFrom tie ((N : Int) - 1) (List.range' first more) = (d, (k : Int)) ∧
        d * 10 ^ k = n := by
  induction more with
  | zero =>
      intro first hfirst hlast
      omega
  | succ more ih =>
      intro first hfirst hlast
      obtain ⟨k, rfl⟩ := Nat.exists_eq_add_of_le hfirst
      have hscale : ((first + k : Nat) : Int) - 1 + 1 - (first : Int) = (k : Int) := by omega
      rw [List.range'_succ, shortestFrom, hscale, h.truncated_eq, h.pick?_eq hn]
      by_cases hdvd : 10 ^ k ∣ n
      · rw [if_pos hdvd]
        exact ⟨n / 10 ^ k, k, rfl, Nat.div_mul_cancel hdvd⟩
      · rw [if_neg hdvd]
        have hk : k ≠ 0 := by
          rintro rfl
          exact hdvd (one_dvd n)
        exact ih (first + 1) (by omega) (by omega)

theorem dropZeros_natCast (d k : Nat) :
    ∃ d' k' : Nat, dropZeros d k = (d', (k' : Int)) ∧ d' * 10 ^ k' = d * 10 ^ k := by
  induction d using Nat.strongRecOn generalizing k with
  | ind d ih =>
      rw [dropZeros]
      split
      · next hzero =>
          obtain ⟨d', k', hdrop, hvalue⟩ := ih (d / 10) (by omega) (k + 1)
          refine ⟨d', k', hdrop, ?_⟩
          rw [hvalue, pow_succ, Nat.mul_comm (10 ^ k), ← Nat.mul_assoc,
            Nat.div_mul_cancel (Nat.dvd_of_mod_eq_zero hzero.2)]
      · exact ⟨d, k, rfl, rfl⟩

/-- The shortest decimal of a whole number below `10 ^ 17` is the number itself. -/
theorem Counts.shortest_eq (h : x.Counts n) (hn : 0 < n) (hlt : n < 10 ^ 17) :
    ∃ d k : Nat, x.shortest tie = (d, (k : Int)) ∧ d * 10 ^ k = n := by
  have hlength : (digitsOf n).length ≤ 17 := (length_digitsOf_le_iff (by decide)).mpr hlt
  have hpos : 0 < (digitsOf n).length := Nat.length_toDigits_pos
  obtain ⟨d, k, hfrom, hvalue⟩ := @Counts.shortestFrom_eq _ _ _ tie h hn 17 1 hpos (by omega)
  obtain ⟨d', k', hdrop, hvalue'⟩ := dropZeros_natCast d k
  refine ⟨d', k', ?_, hvalue'.trans hvalue⟩
  have hcounts : (List.range 17).map (· + 1) = List.range' 1 17 := by decide
  unfold shortest
  rw [hcounts, h.leadingExponent_eq hn, hfrom]
  exact hdrop

/-! ### The nearest number -/

theorem divNearest_one (n : Nat) : divNearest n 1 = n := by
  unfold divNearest
  simp [Nat.mod_one]

theorem divNearest_cases (num den : Nat) :
    divNearest num den = num / den ∨ divNearest num den = num / den + 1 := by
  unfold divNearest
  dsimp only
  split
  · exact .inl rfl
  · split
    · exact .inr rfl
    · split
      · exact .inl rfl
      · exact .inr rfl

theorem log2Ratio_one (hn : 0 < n) : log2Ratio n 1 = n.log2 := by
  have hzero : ((n.log2 : Nat) : Int) - (Nat.log2 1 : Nat) = (n.log2 : Nat) := by
    rw [show Nat.log2 1 = 0 by decide]
    omega
  have hreached : 1 <<< n.log2 ≤ n := by
    rw [Nat.shiftLeft_eq, Nat.one_mul]
    exact Nat.log2_self_le (by omega)
  unfold log2Ratio
  rw [hzero]
  simp [hreached]

theorem make?_eq {negative : Bool} {m : Nat} {e : Int} (h : IsCanonical m e) :
    make? negative m e = some ⟨negative, m, e, h⟩ := dif_pos h

theorem ofRatio?_of_lt {negative : Bool} (hn : 0 < n) (hlt : n < 2 ^ 53) :
    ∃ x, ofRatio? negative n 1 = some x ∧ x.negative = negative ∧ x.Counts n := by
  have hlog : n.log2 < 53 := (Nat.log2_lt (by omega)).mpr hlt
  obtain ⟨j, hj⟩ : ∃ j, n.log2 + j = 52 := ⟨52 - n.log2, by omega⟩
  have hexponent : max (((n.log2 : Nat) : Int) - 52) (-1074) = -(j : Int) := by omega
  have hlow : 2 ^ 52 ≤ n * 2 ^ j := by
    rw [← hj, pow_add]
    exact Nat.mul_le_mul_right _ (Nat.log2_self_le (by omega))
  have hhigh : n * 2 ^ j < 2 ^ 53 := by
    rw [show 53 = n.log2 + 1 + j by omega, pow_add]
    exact Nat.mul_lt_mul_of_pos_right Nat.lt_log2_self (Nat.pow_pos (by decide))
  have hcanonical : IsCanonical (n * 2 ^ j) (-(j : Int)) := by
    unfold IsCanonical
    simp only [Nat.shiftLeft_eq]
    omega
  have hsignificand : (if 0 ≤ -(j : Int) then divNearest n (1 <<< (-(j : Int)).toNat)
      else divNearest (n <<< (- -(j : Int)).toNat) 1) = n * 2 ^ j := by
    rcases Nat.eq_zero_or_pos j with rfl | hpos
    · simp [divNearest_one]
    · rw [if_neg (by omega), divNearest_one, neg_neg, Int.toNat_natCast, Nat.shiftLeft_eq]
  refine ⟨⟨negative, n * 2 ^ j, -(j : Int), hcanonical⟩, ?_, rfl, j, rfl, rfl⟩
  unfold ofRatio?
  rw [if_neg (by omega), log2Ratio_one hn, hexponent]
  dsimp only
  rw [hsignificand, if_neg (by rw [Nat.shiftLeft_eq]; omega), make?_eq hcanonical]

theorem exists_ofRatio? {negative : Bool} (hn : 0 < n) (hlt : n < 2 ^ 200) :
    ∃ x, ofRatio? negative n 1 = some x ∧ x.negative = negative := by
  rcases Nat.lt_or_ge n (2 ^ 53) with hsmall | hlarge
  · obtain ⟨x, hx, hnegative, -⟩ := @ofRatio?_of_lt _ negative hn hsmall
    exact ⟨x, hx, hnegative⟩
  · have hlog : n.log2 < 200 := (Nat.log2_lt (by omega)).mpr hlt
    have hlog' : 53 ≤ n.log2 := (Nat.le_log2 (by omega)).mpr hlarge
    obtain ⟨k, hk⟩ : ∃ k, n.log2 = 52 + k := Nat.exists_eq_add_of_le (by omega)
    have hexponent : max (((n.log2 : Nat) : Int) - 52) (-1074) = (k : Int) := by omega
    have hpow : 0 < 2 ^ k := Nat.pow_pos (by decide)
    have hlow : 2 ^ 52 ≤ n / 2 ^ k := by
      rw [Nat.le_div_iff_mul_le hpow, ← pow_add, ← hk]
      exact Nat.log2_self_le (by omega)
    have hhigh : n / 2 ^ k < 2 ^ 53 := by
      rw [Nat.div_lt_iff_lt_mul hpow, ← pow_add, show 53 + k = n.log2 + 1 by omega]
      exact Nat.lt_log2_self
    unfold ofRatio?
    rw [if_neg (by omega), log2Ratio_one hn, hexponent]
    dsimp only
    rw [if_pos (Int.natCast_nonneg k), Int.toNat_natCast, Nat.shiftLeft_eq, Nat.one_mul]
    have hcases := divNearest_cases n (2 ^ k)
    generalize divNearest n (2 ^ k) = m at hcases
    split
    · refine ⟨_, make?_eq ?_, rfl⟩
      unfold IsCanonical
      simp only [Nat.shiftLeft_eq]
      omega
    · next hm =>
        refine ⟨_, make?_eq ?_, rfl⟩
        rw [Nat.shiftLeft_eq] at hm
        unfold IsCanonical
        simp only [Nat.shiftLeft_eq]
        omega

end ClassScribe.Binary64
