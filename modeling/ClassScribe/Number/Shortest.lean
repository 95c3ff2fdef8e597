import ClassScribe.Number.Binary64

/-! # Shortest decimal digits

The fewest decimal digits that read back as a given binary number, and of two candidates with as
few digits the nearer one. -/

namespace ClassScribe

/-- Which of two decimals is taken when the binary number lies in their middle. -/
inductive Tie
  | even
  | up
  deriving DecidableEq, Repr

namespace Binary64

/-- `digits * 10 ^ scale` as a fraction. -/
def decimalFraction (digits : Nat) (scale : Int) : Nat × Nat :=
  if 0 ≤ scale then (digits * Nat.pow 10 scale.toNat, 1) else (digits, Nat.pow 10 (-scale).toNat)

/-- The number of decimal digits; zero has none. -/
def decimalLength (n : Nat) : Nat := if n = 0 then 0 else (Nat.toDigits 10 n).length

/-- The exponent of the first decimal digit of a positive number. -/
def leadingExponent (x : Binary64) : Int :=
  let (num, den) := x.fraction
  if den ≤ num then (decimalLength (num / den) : Int) - 1
  else -(decimalLength ((den + num - 1) / num - 1) : Int)

/-- The middles between the number and its two neighbours, and a common denominator. A power of two
lies closer to the neighbour below it. -/
def middles (x : Binary64) : Nat × Nat × Nat :=
  let (num, den) := x.fraction
  let step := 1 <<< x.exponent.toNat
  let below := if x.significand = 1 <<< 52 ∧ x.exponent ≠ -1074 then step else 2 * step
  (4 * num - below, 4 * num + 2 * step, 4 * den)

/-- Whether a decimal is read as the number: it lies between the two middles, or on one of them if
the significand is even. -/
def isReadFrom (x : Binary64) (digits : Nat) (scale : Int) : Bool :=
  let (low, high, den) := x.middles
  let (a, b) := decimalFraction digits scale
  if x.significand % 2 = 0 then low * b ≤ a * den && a * den ≤ high * b
  else low * b < a * den && a * den < high * b

/-- Of the decimals `digits` and `digits + 1` below and above the number, the one to write if one of
them is read as the number. -/
def pick? (tie : Tie) (x : Binary64) (digits : Nat) (scale : Int) : Option Nat :=
  match x.isReadFrom digits scale, x.isReadFrom (digits + 1) scale with
  | false, false => none
  | true, false => some digits
  | false, true => some (digits + 1)
  | true, true =>
    let (num, den) := x.fraction
    let (a, b) := decimalFraction (2 * digits + 1) scale
    if 2 * num * b < a * den then some digits
    else if a * den < 2 * num * b then some (digits + 1)
    else if tie = .even && digits % 2 = 0 then some digits
    else some (digits + 1)

/-- The decimal with `n` digits just below the number. -/
def truncated (x : Binary64) (scale : Int) : Nat :=
  let (num, den) := x.fraction
  if 0 ≤ scale then num / (den * Nat.pow 10 scale.toNat) else num * Nat.pow 10 (-scale).toNat / den

/-- Tries the numbers of digits from the first one on; seventeen are always enough. -/
def shortestFrom (tie : Tie) (x : Binary64) (lead : Int) : List Nat → Nat × Int
  | [] => (x.truncated (lead - 16), lead - 16)
  | n :: more =>
    let scale := lead + 1 - n
    match x.pick? tie (x.truncated scale) scale with
    | some digits => (digits, scale)
    | none => shortestFrom tie x lead more

/-- Digits without zeros at the end. -/
def dropZeros (digits : Nat) (scale : Int) : Nat × Int :=
  if h : 0 < digits ∧ digits % 10 = 0 then dropZeros (digits / 10) (scale + 1) else (digits, scale)
termination_by digits
decreasing_by omega

/-- The shortest decimal of a number that is not zero: its digits and the exponent of the last one. -/
def shortest (tie : Tie) (x : Binary64) : Nat × Int :=
  let (digits, scale) := shortestFrom tie x x.leadingExponent ((List.range 17).map (· + 1))
  dropZeros digits scale

end Binary64
end ClassScribe
