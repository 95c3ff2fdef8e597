/-! # Numerals

Digits of the bases up to sixteen, and the natural numbers that they write. -/

namespace ClassScribe.Numeral

/-- The value of a digit; letters of either case follow after nine. -/
def digit? (c : Char) : Option Nat :=
  if '0' ≤ c ∧ c ≤ '9' then some (c.toNat - 48)
  else if 'a' ≤ c ∧ c ≤ 'f' then some (c.toNat - 87)
  else if 'A' ≤ c ∧ c ≤ 'F' then some (c.toNat - 55)
  else none

/-- The value of digits to a base up to sixteen; there is at least one. -/
def value? (base : Nat) (digits : List Char) : Option Nat :=
  if digits.isEmpty then none
  else digits.foldlM (fun n c => ((digit? c).filter (· < base)).map (n * base + ·)) 0

end ClassScribe.Numeral
