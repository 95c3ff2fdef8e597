import Mathlib.Tactic.Ring
import Mathlib.Tactic.Linarith
import ClassScribe.Proofs.Number.Whole

/-! # The nearest number

A number of steps is rounded to a multiple of the power of two that leaves 53 binary digits, and no number
is nearer (`rounded_le`). So there is a nearest number to each integer that is not far too large
(`exists_ofInt?`): the integer itself up to `2 ^ 53` (`IsNearest.eq_of_le`), and at most `2 ^ 10` away from
an integer of a word (`IsNearest.near`). Sums and differences are rounded likewise (`IsNearest.exists_add?`). -/

namespace ClassScribe.Binary64

variable {x y : Binary64} {num den n s : Nat} {i j : Int}

/-! ### Rounding to a multiple -/

/-- A quotient is rounded by a half at most. -/
theorem divNearest_half (num : Nat) (hden : 0 < den) :
    2 * ((divNearest num den : Int) * den - num).natAbs ≤ den := by
  have hdiv : num / den * den + num % den = num := Nat.div_add_mod' num den
  have hmod : num % den < den := Nat.mod_lt _ hden
  have hnext : (num / den + 1) * den = num / den * den + den := Nat.succ_mul _ _
  rw [← Nat.cast_mul]
  unfold divNearest
  dsimp only
  split
  · omega
  · split
    · rw [hnext]
      omega
    · split
      · omega
      · rw [hnext]
        omega

/-- Of all multiples of the divisor, the rounded one is nearest. -/
theorem divNearest_le (num : Nat) (hden : 0 < den) (q : Int) :
    ((divNearest num den : Int) * den - num).natAbs ≤ (q * den - num).natAbs := by
  have hhalf := divNearest_half num hden
  generalize (divNearest num den : Int) = d at hhalf ⊢
  rcases Int.lt_trichotomy q d with hlt | rfl | hlt
  · have hle : (q + 1) * (den : Int) ≤ d * den := Int.mul_le_mul_of_nonneg_right (by omega) (by omega)
    rw [Int.add_mul] at hle
    omega
  · exact Nat.le_refl _
  · have hle : (d + 1) * (den : Int) ≤ q * den := Int.mul_le_mul_of_nonneg_right (by omega) (by omega)
    rw [Int.add_mul] at hle
    omega

theorem divNearest_mul_right (num den : Nat) {c : Nat} (hc : 0 < c) :
    divNearest (num * c) (den * c) = divNearest num den := by
  unfold divNearest
  dsimp only
  rw [Nat.mul_div_mul_right _ _ hc, Nat.mul_mod_mul_right, ← Nat.mul_assoc]
  simp only [Nat.mul_lt_mul_right hc]

theorem divNearest_of_dvd (h : den ∣ num) (hden : 0 < den) : divNearest num den * den = num := by
  obtain ⟨q, rfl⟩ := h
  have hle := divNearest_le (den * q) hden q
  have hzero : (q : Int) * den - ((den * q : Nat) : Int) = 0 := by
    push_cast
    ring
  rw [hzero] at hle
  zify
  push_cast at hle ⊢
  omega

/-! ### Rounding steps

Numbers are counted in steps, multiples of the least positive one. -/

/-- The exponent of the last one of 53 binary digits. -/
def lastPlace (s : Nat) : Nat := s.log2 - 52

/-- The number of steps that is kept of a number of steps. -/
def rounded (s : Nat) : Nat := divNearest s (2 ^ lastPlace s) * 2 ^ lastPlace s

theorem natAbs_steps (x : Binary64) :
    x.steps.natAbs = x.significand * 2 ^ (x.exponent + 1074).toNat := by
  unfold steps
  rw [Nat.shiftLeft_eq]
  dsimp only
  split
  · rw [Int.natAbs_neg, Int.natAbs_natCast]
  · exact Int.natAbs_natCast _

theorem steps_eq (x : Binary64) :
    x.steps = if x.negative then -(x.steps.natAbs : Int) else x.steps.natAbs := by
  rw [natAbs_steps, ← Nat.shiftLeft_eq]
  rfl

theorem two_pow_lastPlace_le (hs : 0 < lastPlace s) : 2 ^ (lastPlace s + 52) ≤ s := by
  unfold lastPlace at hs ⊢
  rw [Nat.sub_add_cancel (by omega)]
  exact Nat.log2_self_le fun h => by simp [h] at hs

theorem lt_two_pow_lastPlace (s : Nat) : s < 2 ^ (lastPlace s + 53) := by
  unfold lastPlace
  exact Nat.lt_of_lt_of_le Nat.lt_log2_self (Nat.pow_le_pow_right (by decide) (by omega))

/-- No number is nearer to some steps than what is kept of them. -/
theorem rounded_le (s : Nat) (y : Binary64) :
    ((rounded s : Int) - s).natAbs ≤ ((y.steps.natAbs : Int) - s).natAbs := by
  have hmultiple (q : Nat) : ((rounded s : Int) - s).natAbs ≤
      (((q * 2 ^ lastPlace s : Nat) : Int) - s).natAbs := by
    have hle := divNearest_le s (Nat.pow_pos (n := lastPlace s) (by decide : 0 < 2)) q
    rwa [← Nat.cast_mul, ← Nat.cast_mul] at hle
  rw [natAbs_steps]
  generalize hplace : (y.exponent + 1074).toNat = place
  rcases Nat.le_total (lastPlace s) place with hle | hle
  · obtain ⟨k, rfl⟩ := Nat.exists_eq_add_of_le hle
    rw [pow_add, Nat.mul_comm (2 ^ _), ← Nat.mul_assoc]
    exact hmultiple _
  · -- A smaller exponent reaches the power of two below the steps at most, which is a multiple too.
    rcases Nat.eq_or_lt_of_le hle with rfl | hlt
    · exact hmultiple _
    · have hbelow : 2 ^ 52 * 2 ^ lastPlace s ≤ s := by
        rw [← pow_add, Nat.add_comm]
        exact two_pow_lastPlace_le (by omega)
      have hsmall : y.significand * 2 ^ place ≤ 2 ^ 52 * 2 ^ lastPlace s := by
        have hsignificand : y.significand ≤ 2 ^ 53 := by
          have := y.canonical.1
          rw [Nat.shiftLeft_eq] at this
          omega
        calc y.significand * 2 ^ place ≤ 2 ^ 53 * 2 ^ place := Nat.mul_le_mul_right _ hsignificand
          _ = 2 ^ 52 * 2 ^ (place + 1) := by ring
          _ ≤ 2 ^ 52 * 2 ^ lastPlace s :=
            Nat.mul_le_mul_left _ (Nat.pow_le_pow_right (by decide) hlt)
      have := hmultiple (2 ^ 52)
      omega

/-! ### Fractions with a power of two below -/

theorem log2Ratio_two_pow (hn : 0 < n) (j : Nat) : log2Ratio n (2 ^ j) = (n.log2 : Int) - j := by
  have hself : 2 ^ n.log2 ≤ n := Nat.log2_self_le hn.ne'
  unfold log2Ratio
  rw [Nat.log2_two_pow]
  dsimp only
  rw [if_pos]
  split
  · next hle =>
      rwa [Nat.shiftLeft_eq, ← pow_add, show j + ((n.log2 : Int) - j).toNat = n.log2 by omega]
  · next hlt =>
      rw [Nat.shiftLeft_eq]
      calc 2 ^ j = 2 ^ n.log2 * 2 ^ (-((n.log2 : Int) - j)).toNat := by
            rw [← pow_add, show n.log2 + (-((n.log2 : Int) - j)).toNat = j by omega]
        _ ≤ n * 2 ^ (-((n.log2 : Int) - j)).toNat := Nat.mul_le_mul_right _ hself

theorem log2_mul_two_pow (hn : 0 < n) (k : Nat) : (n * 2 ^ k).log2 = n.log2 + k := by
  have hpow : 0 < 2 ^ k := Nat.pow_pos (by decide)
  rw [Nat.log2_eq_iff (Nat.mul_pos hn hpow).ne', pow_add, Nat.add_right_comm, pow_add]
  exact ⟨Nat.mul_le_mul_right _ (Nat.log2_self_le hn.ne'), Nat.mul_lt_mul_of_pos_right Nat.lt_log2_self hpow⟩

theorem log2_lt_of_lt_mul {c k : Nat} (hc : 0 < c) (h : n < 2 ^ c * 2 ^ k) : n.log2 < c + k := by
  rcases Nat.eq_zero_or_pos n with rfl | hn
  · rw [Nat.log2_zero]
    omega
  · rwa [Nat.log2_lt hn.ne', pow_add]

theorem divNearest_fraction {j k : Nat} (hjk : j + k = 1074) (e : Int) (he : -1074 ≤ e) :
    (if 0 ≤ e then divNearest n (2 ^ j <<< e.toNat) else divNearest (n <<< (-e).toNat) (2 ^ j)) =
      divNearest (n * 2 ^ k) (2 ^ (e + 1074).toNat) := by
  have hpow (k : Nat) : 0 < 2 ^ k := Nat.pow_pos (by decide)
  split
  · rw [Nat.shiftLeft_eq, ← divNearest_mul_right n _ (hpow k), ← pow_add, ← pow_add]
    congr 2
    omega
  · rw [Nat.shiftLeft_eq, ← divNearest_mul_right _ (2 ^ j) (hpow (e + 1074).toNat),
      ← divNearest_mul_right (n * 2 ^ k) _ (hpow j), Nat.mul_assoc, Nat.mul_assoc, ← pow_add, ← pow_add,
      ← pow_add, ← pow_add, show (-e).toNat + (e + 1074).toNat = k + j by omega, Nat.add_comm j]

theorem rounded_bounds (s : Nat) : divNearest s (2 ^ lastPlace s) ≤ 2 ^ 53 ∧
    (2 ^ 52 ≤ divNearest s (2 ^ lastPlace s) ∨ lastPlace s = 0) := by
  have hpow : 0 < 2 ^ lastPlace s := Nat.pow_pos (by decide)
  have hhigh : s / 2 ^ lastPlace s < 2 ^ 53 := by
    rw [Nat.div_lt_iff_lt_mul hpow, ← pow_add, Nat.add_comm]
    exact lt_two_pow_lastPlace s
  have hlow : 0 < lastPlace s → 2 ^ 52 ≤ s / 2 ^ lastPlace s := by
    intro h
    rw [Nat.le_div_iff_mul_le hpow, ← pow_add, Nat.add_comm]
    exact two_pow_lastPlace_le h
  have hcases := divNearest_cases s (2 ^ lastPlace s)
  omega

/-- A fraction that is not far too large is rounded, with its sign. -/
theorem exists_rounded {negative : Bool} {j k : Nat} (hjk : j + k = 1074) (hn : 0 < n)
    (hlt : n.log2 + k < 2000) : ∃ x, ofRatio? negative n (1 <<< j) = some x ∧ x.negative = negative ∧
      x.steps.natAbs = rounded (n * 2 ^ k) := by
  have hlog : (n * 2 ^ k).log2 = n.log2 + k := log2_mul_two_pow hn k
  have hplace : max (log2Ratio n (2 ^ j) - 52) (-1074) = (lastPlace (n * 2 ^ k) : Int) - 1074 := by
    rw [log2Ratio_two_pow hn, lastPlace, hlog]
    omega
  have hplace_le : lastPlace (n * 2 ^ k) < 1948 := by
    rw [lastPlace, hlog]
    omega
  rw [Nat.one_shiftLeft]
  unfold ofRatio?
  rw [if_neg hn.ne', hplace]
  dsimp only
  rw [divNearest_fraction hjk _ (by omega), Int.sub_add_cancel, Int.toNat_natCast]
  have hbounds := rounded_bounds (n * 2 ^ k)
  unfold rounded
  generalize lastPlace (n * 2 ^ k) = place at hplace_le hbounds
  generalize divNearest (n * 2 ^ k) (2 ^ place) = m at hbounds
  split
  · next hm =>
      rw [Nat.shiftLeft_eq, Nat.one_mul] at hm
      have hcanonical : IsCanonical (1 <<< 52) ((place : Int) - 1074 + 1) := by
        unfold IsCanonical
        simp only [Nat.shiftLeft_eq]
        omega
      refine ⟨_, make?_eq hcanonical, rfl, ?_⟩
      rw [natAbs_steps]
      dsimp only
      rw [show ((place : Int) - 1074 + 1 + 1074).toNat = place + 1 by omega, hm, Nat.shiftLeft_eq]
      ring
  · next hm =>
      rw [Nat.shiftLeft_eq, Nat.one_mul] at hm
      have hcanonical : IsCanonical m ((place : Int) - 1074) := by
        unfold IsCanonical
        simp only [Nat.shiftLeft_eq]
        omega
      refine ⟨_, make?_eq hcanonical, rfl, ?_⟩
      rw [natAbs_steps]
      dsimp only
      rw [Int.sub_add_cancel, Int.toNat_natCast]

/-! ### Nearest numbers -/

/-- No number is nearer to a number of steps. -/
def IsNearest (x : Binary64) (s : Int) : Prop :=
  ∀ y : Binary64, (x.steps - s).natAbs ≤ (y.steps - s).natAbs

/-- The steps to one. -/
def stepsToOne : Int := 2 ^ 1074

theorem stepsToOne_pos : 0 < stepsToOne := Int.pow_pos (by decide)

theorem natAbs_mul_two_pow (i : Int) (k : Nat) : (i * 2 ^ k).natAbs = i.natAbs * 2 ^ k := by
  rw [Int.natAbs_mul, Int.natAbs_pow]
  rfl

theorem natAbs_mul_stepsToOne (i : Int) : (i * stepsToOne).natAbs = i.natAbs * 2 ^ 1074 :=
  natAbs_mul_two_pow i 1074

theorem natAbs_stepsToOne : stepsToOne.natAbs = 2 ^ 1074 := by
  have hone := natAbs_mul_stepsToOne 1
  rwa [Int.one_mul, Int.natAbs_one, Nat.one_mul] at hone

theorem steps_zero (negative : Bool) : (zero negative).steps = 0 := by
  have habs : (zero negative).steps.natAbs = 0 := by
    rw [natAbs_steps]
    exact Nat.zero_mul _
  exact Int.natAbs_eq_zero.mp habs

theorem steps_neg (x : Binary64) : x.neg.steps = -x.steps := by
  have habs : x.neg.steps.natAbs = x.steps.natAbs := by
    rw [natAbs_steps, natAbs_steps]
    rfl
  have hsign : x.neg.negative = !x.negative := rfl
  rw [steps_eq x, steps_eq x.neg, habs, hsign]
  cases x.negative <;> simp

theorem natAbs_steps_sub {s : Int} (hsign : x.negative = decide (s < 0))
    (habs : x.steps.natAbs = rounded s.natAbs) :
    (x.steps - s).natAbs = ((rounded s.natAbs : Int) - s.natAbs).natAbs := by
  have hsteps := steps_eq x
  rw [hsign, habs] at hsteps
  by_cases h : s < 0
  · rw [decide_eq_true h, if_pos rfl] at hsteps
    omega
  · rw [decide_eq_false h, if_neg Bool.false_ne_true] at hsteps
    omega

theorem isNearest_of_natAbs {s : Int} (hsign : x.negative = decide (s < 0))
    (habs : x.steps.natAbs = rounded s.natAbs) : x.IsNearest s := by
  intro y
  rw [natAbs_steps_sub hsign habs]
  have hle := rounded_le s.natAbs y
  omega

theorem exists_ofInt? (hi : i.natAbs ≤ 2 ^ 64) :
    ∃ x, ofInt? i = some x ∧ x.IsNearest (i * stepsToOne) := by
  rcases Nat.eq_zero_or_pos i.natAbs with hzero | hpos
  · obtain rfl := Int.natAbs_eq_zero.mp hzero
    refine ⟨zero false, rfl, fun y => ?_⟩
    rw [steps_zero, Int.zero_mul]
    exact Nat.zero_le _
  · have hlog : i.natAbs.log2 < 65 := (Nat.log2_lt hpos.ne').mpr (by omega)
    obtain ⟨x, hx, hsign, habs⟩ := @exists_rounded i.natAbs (decide (i < 0)) 0 1074 rfl hpos (by omega)
    have hone := stepsToOne_pos
    refine ⟨x, hx, isNearest_of_natAbs (hsign.trans ?_) (habs.trans ?_)⟩
    · rw [decide_eq_decide, mul_neg_iff]
      omega
    · rw [natAbs_mul_stepsToOne]

/-- A sum that is not far too large is rounded to a nearest number. -/
theorem exists_add?_of_log2 (x y : Binary64) (h : (x.steps + y.steps).natAbs.log2 < 2000) :
    ∃ z, x.add? y = some z ∧ z.IsNearest (x.steps + y.steps) := by
  unfold add?
  dsimp only
  generalize x.steps + y.steps = s at h
  split
  · next hzero =>
      refine ⟨_, rfl, fun y => ?_⟩
      rw [steps_zero, hzero]
      exact Nat.zero_le _
  · next hne =>
      obtain ⟨z, hz, hsign, habs⟩ :=
        @exists_rounded s.natAbs (decide (s < 0)) 1074 0 rfl (Int.natAbs_pos.mpr hne) h
      rw [Nat.pow_zero, Nat.mul_one] at habs
      exact ⟨z, hz, isNearest_of_natAbs hsign habs⟩

/-! ### What is kept -/

theorem IsNearest.natAbs_sub_le {s : Int} (hx : x.IsNearest s) (hs : s.natAbs.log2 < 2000) :
    (x.steps - s).natAbs ≤ ((rounded s.natAbs : Int) - s.natAbs).natAbs := by
  rcases Nat.eq_zero_or_pos s.natAbs with hzero | hpos
  · obtain rfl := Int.natAbs_eq_zero.mp hzero
    have hle := hx (zero false)
    rw [steps_zero] at hle
    omega
  · obtain ⟨y, -, hsign, habs⟩ := @exists_rounded s.natAbs (decide (s < 0)) 1074 0 rfl hpos hs
    rw [Nat.pow_zero, Nat.mul_one] at habs
    rw [← natAbs_steps_sub hsign habs]
    exact hx y

theorem IsNearest.le (hx : x.IsNearest i) (hy : y.IsNearest j) (h : i < j) : x.steps ≤ y.steps := by
  have hx := hx y
  have hy := hy x
  omega

theorem lastPlace_mul_stepsToOne (hi : i ≠ 0) :
    lastPlace (i * stepsToOne).natAbs = i.natAbs.log2 + 1022 := by
  rw [natAbs_mul_stepsToOne, lastPlace, log2_mul_two_pow (Int.natAbs_pos.mpr hi)]
  omega

theorem log2_mul_stepsToOne_lt (hi : i.natAbs ≤ 2 ^ 64) : (i * stepsToOne).natAbs.log2 < 2000 := by
  have hlt : (i * stepsToOne).natAbs < 2 ^ 65 * 2 ^ 1074 := by
    rw [Int.natAbs_mul, ← natAbs_stepsToOne]
    exact Nat.mul_lt_mul_of_pos_right (by omega) (Int.natAbs_pos.mpr stepsToOne_pos.ne')
  have hlog := log2_lt_of_lt_mul (by decide) hlt
  omega

/-- Integers up to `2 ^ 53` are kept. -/
theorem IsNearest.eq_of_le (hx : x.IsNearest (i * stepsToOne)) (hi : i.natAbs ≤ 2 ^ 53) :
    x.steps = i * stepsToOne := by
  have hle := hx.natAbs_sub_le (log2_mul_stepsToOne_lt (by omega))
  have hdvd : 2 ^ lastPlace (i * stepsToOne).natAbs ∣ (i * stepsToOne).natAbs := by
    by_cases hzero : i = 0
    · rw [hzero, Int.zero_mul]
      exact Nat.dvd_zero _
    · rw [lastPlace_mul_stepsToOne hzero, natAbs_mul_stepsToOne]
      rcases Nat.eq_or_lt_of_le hi with heq | hlt
      · rw [heq, Nat.log2_two_pow, ← pow_add]
        exact pow_dvd_pow 2 (by decide)
      · have hlog : i.natAbs.log2 < 53 := (Nat.log2_lt (Int.natAbs_ne_zero.mpr hzero)).mpr hlt
        exact Nat.dvd_mul_left_of_dvd (pow_dvd_pow 2 (by omega)) _
  rw [rounded, divNearest_of_dvd hdvd (Nat.pow_pos (by decide))] at hle
  omega

/-- Integers of a word are rounded by `2 ^ 10` at most. -/
theorem IsNearest.near (hx : x.IsNearest (i * stepsToOne)) (hi : i.natAbs < 2 ^ 64) :
    (x.steps - i * stepsToOne).natAbs ≤ 2 ^ 10 * stepsToOne.natAbs := by
  have hle := hx.natAbs_sub_le (log2_mul_stepsToOne_lt (by omega))
  by_cases hzero : i = 0
  · have hexact := hx.eq_of_le (by omega)
    omega
  · have hhalf := divNearest_half (i * stepsToOne).natAbs
      (Nat.pow_pos (n := lastPlace (i * stepsToOne).natAbs) (by decide : 0 < 2))
    have hplace : 2 ^ lastPlace (i * stepsToOne).natAbs ≤ 2 ^ 11 * stepsToOne.natAbs := by
      have hlog : i.natAbs.log2 < 64 := (Nat.log2_lt (Int.natAbs_ne_zero.mpr hzero)).mpr hi
      rw [lastPlace_mul_stepsToOne hzero, natAbs_stepsToOne, ← pow_add]
      exact pow_le_pow_right₀ (by decide) (by omega)
    rw [← Nat.cast_mul] at hhalf
    unfold rounded at hle
    omega

theorem IsNearest.neg {s : Int} (hx : x.IsNearest s) : x.neg.IsNearest (-s) := by
  intro y
  have hle := hx y.neg
  rw [steps_neg] at hle ⊢
  omega

/-- A nearest number is not farther from zero than twice what it is next to. -/
theorem IsNearest.natAbs_le {s : Int} (hx : x.IsNearest s) : x.steps.natAbs ≤ 2 * s.natAbs := by
  have hle := hx (zero false)
  rw [steps_zero] at hle
  omega

theorem log2_steps_add_lt (hx : x.IsNearest (i * stepsToOne)) (hy : y.IsNearest (j * stepsToOne))
    (hi : i.natAbs ≤ 2 ^ 64) (hj : j.natAbs ≤ 2 ^ 64) : (x.steps + y.steps).natAbs.log2 < 2000 := by
  have hleft := hx.natAbs_le
  have hright := hy.natAbs_le
  have hlt : (x.steps + y.steps).natAbs < 2 ^ 67 * 2 ^ 1074 := by
    rw [Int.natAbs_mul] at hleft hright
    rw [← natAbs_stepsToOne]
    have hone := Int.natAbs_pos.mpr stepsToOne_pos.ne'
    have hi' := Nat.mul_le_mul_right stepsToOne.natAbs hi
    have hj' := Nat.mul_le_mul_right stepsToOne.natAbs hj
    omega
  have hlog := log2_lt_of_lt_mul (by decide) hlt
  omega

theorem IsNearest.exists_add? (hx : x.IsNearest (i * stepsToOne)) (hy : y.IsNearest (j * stepsToOne))
    (hi : i.natAbs ≤ 2 ^ 64) (hj : j.natAbs ≤ 2 ^ 64) :
    ∃ z, x.add? y = some z ∧ z.IsNearest (x.steps + y.steps) :=
  exists_add?_of_log2 x y (log2_steps_add_lt hx hy hi hj)

theorem IsNearest.exists_sub? (hx : x.IsNearest (i * stepsToOne)) (hy : y.IsNearest (j * stepsToOne))
    (hi : i.natAbs ≤ 2 ^ 64) (hj : j.natAbs ≤ 2 ^ 64) :
    ∃ z, x.sub? y = some z ∧ z.IsNearest (x.steps - y.steps) := by
  have hneg := hy.neg
  rw [← Int.neg_mul] at hneg
  obtain ⟨z, hz, hnearest⟩ := hx.exists_add? hneg hi (by rwa [Int.natAbs_neg])
  rw [steps_neg] at hnearest
  exact ⟨z, hz, hnearest⟩

end ClassScribe.Binary64
