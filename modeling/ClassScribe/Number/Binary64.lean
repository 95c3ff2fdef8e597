/-! # Binary floating point

The finite numbers of the 64-bit binary format, each as a sign, a significand below `2 ^ 53` and an
exponent of two. Arithmetic is exact on natural numbers and rounds once, to the nearest number and
to the even significand in the middle. There are no infinities: an operation that would give one
has no result. -/

namespace ClassScribe

/-- The pairs of significand and exponent that stand for a number: the significand has its full
length unless the exponent is the least one. -/
def IsCanonical (significand : Nat) (exponent : Int) : Prop :=
  significand < 1 <<< 53 ∧ -1074 ≤ exponent ∧ exponent ≤ 971 ∧
    (1 <<< 52 ≤ significand ∨ exponent = -1074)

instance (m : Nat) (e : Int) : Decidable (IsCanonical m e) := by
  unfold IsCanonical; infer_instance

/-- A finite number of the 64-bit binary format. -/
structure Binary64 where
  negative : Bool
  significand : Nat
  exponent : Int
  canonical : IsCanonical significand exponent
  deriving DecidableEq, Repr

namespace Binary64

/-- Zero with a sign. -/
def zero (negative : Bool) : Binary64 := ⟨negative, 0, -1074, by decide⟩

instance : Inhabited Binary64 := ⟨zero false⟩

/-! ### Rounding -/

/-- The quotient rounded to the nearest integer, to the even one in the middle. -/
def divNearest (num den : Nat) : Nat :=
  let q := num / den
  let r := num % den
  if 2 * r < den then q else if den < 2 * r then q + 1 else if q % 2 = 0 then q else q + 1

/-- The greatest `k` with `2 ^ k ≤ num / den`. -/
def log2Ratio (num den : Nat) : Int :=
  let k : Int := (num.log2 : Int) - den.log2
  let reached := if 0 ≤ k then den <<< k.toNat ≤ num else den ≤ num <<< (-k).toNat
  if reached then k else k - 1

/-- The number of a significand and an exponent, if there is one. -/
def make? (negative : Bool) (significand : Nat) (exponent : Int) : Option Binary64 :=
  if h : IsCanonical significand exponent then some ⟨negative, significand, exponent, h⟩ else none

/-- The number nearest to `num / den`, unless it is too large. -/
def ofRatio? (negative : Bool) (num den : Nat) : Option Binary64 :=
  if num = 0 then some (zero negative)
  else
    let e := max (log2Ratio num den - 52) (-1074)
    let m :=
      if 0 ≤ e then divNearest num (den <<< e.toNat) else divNearest (num <<< (-e).toNat) den
    if m = 1 <<< 53 then make? negative (1 <<< 52) (e + 1) else make? negative m e

/-- The number nearest to an integer. -/
def ofInt? (i : Int) : Option Binary64 := ofRatio? (i < 0) i.natAbs 1

/-- The number nearest to `digits * 10 ^ exponent`, unless it is too large. Exponents far out of
range are not expanded. -/
def ofDecimal? (negative : Bool) (digits : Nat) (exponent : Int) : Option Binary64 :=
  if digits = 0 then some (zero negative)
  else
    let length : Int := (Nat.toDigits 10 digits).length
    if 310 < length + exponent then none
    else if length + exponent < -330 then some (zero negative)
    else if 0 ≤ exponent then ofRatio? negative (digits * Nat.pow 10 exponent.toNat) 1
    else ofRatio? negative digits (Nat.pow 10 (-exponent).toNat)

/-! ### Values -/

/-- The number as a multiple of the least positive one. -/
def steps (x : Binary64) : Int :=
  let n : Int := (x.significand <<< (x.exponent + 1074).toNat : Nat)
  if x.negative then -n else n

/-- Whether the number is zero, of either sign. -/
def isZero (x : Binary64) : Bool := x.significand == 0

/-- The number without its sign as a fraction. -/
def fraction (x : Binary64) : Nat × Nat :=
  if 0 ≤ x.exponent then (x.significand <<< x.exponent.toNat, 1)
  else (x.significand, 1 <<< (-x.exponent).toNat)

/-- The natural number that the number is without its sign, if it is whole. -/
def whole? (x : Binary64) : Option Nat :=
  let (num, den) := x.fraction
  if num % den = 0 then some (num / den) else none

/-! ### Order and arithmetic -/

/-- Equality as numbers: the two zeros are equal. -/
def beq (x y : Binary64) : Bool := x.steps == y.steps

/-- The order of the numbers. -/
def compare (x y : Binary64) : Ordering := Ord.compare x.steps y.steps

/-- The number with the other sign. -/
def neg (x : Binary64) : Binary64 := { x with negative := !x.negative }

/-- The rounded sum. A sum of zero is positive unless both parts are negative. -/
def add? (x y : Binary64) : Option Binary64 :=
  let s := x.steps + y.steps
  if s = 0 then some (zero (x.negative && y.negative))
  else ofRatio? (s < 0) s.natAbs (1 <<< 1074)

/-- The rounded difference. -/
def sub? (x y : Binary64) : Option Binary64 := x.add? y.neg

/-- The rounded product. -/
def mul? (x y : Binary64) : Option Binary64 :=
  let (a, b) := x.fraction
  let (c, d) := y.fraction
  ofRatio? (x.negative != y.negative) (a * c) (b * d)

/-- The rounded quotient by a number that is not zero. -/
def div? (x y : Binary64) : Option Binary64 :=
  let (a, b) := x.fraction
  let (c, d) := y.fraction
  if c = 0 then none else ofRatio? (x.negative != y.negative) (a * d) (b * c)

end Binary64
end ClassScribe
