import ClassScribe.Number.Basic

/-! # Number literals

The digits of a JSON number and the number they are read as. Without a point and an exponent it is
an integer, if a 64-bit word holds it. Otherwise the digits are collected in a 64-bit word, and the
nearest binary number to it is scaled by powers of ten, with a rounding at every step. -/

namespace ClassScribe.Json

/-- The parts of a number literal. -/
structure NumberLiteral where
  negative : Bool
  integer : List Nat
  fraction : Option (List Nat)
  /-- Whether the exponent is negative, and its digits. -/
  exponent : Option (Bool × List Nat)
  deriving DecidableEq, Repr

namespace NumberLiteral

/-- The largest significand. -/
def maxWord : Nat := 0xFFFFFFFFFFFFFFFF

/-- The digits as long as the word holds them, and the number of digits after that. -/
def collectInteger (digits : List Nat) : Nat × Nat :=
  digits.foldl (fun (word, excess) d =>
    if excess = 0 ∧ word * 10 + d ≤ maxWord then (word * 10 + d, 0) else (word, excess + 1)) (0, 0)

/-- Appends digits to the word as long as it holds them, and counts them. -/
def collectFraction (word taken : Nat) : List Nat → Nat × Nat
  | [] => (word, taken)
  | d :: rest =>
    if word * 10 + d ≤ maxWord then collectFraction (word * 10 + d) (taken + 1) rest
    else (word, taken)

/-- The word scaled by a power of ten, unless the result is too large. -/
def scale? (x : Binary64) (exponent : Int) : Option Binary64 :=
  if _h : exponent < -308 then
    if x.isZero then some x
    else (Binary64.ofDecimal? false 1 308 >>= x.div?) >>= (scale? · (exponent + 308))
  else
    let power := Binary64.ofDecimal? false 1 exponent.natAbs
    if 308 < exponent then (if x.isZero then some x else none)
    else if 0 ≤ exponent then power >>= x.mul?
    else power >>= x.div?
termination_by (-exponent).toNat

/-- The value of an exponent; from `2 ^ 31` on it is out of range. -/
def exponentValue (digits : List Nat) : Nat := digits.foldl (fun n d => n * 10 + d) 0

/-- The number of a literal, unless it is too large. -/
def toNumber? (l : NumberLiteral) : Option Number :=
  let (word, excess) := collectInteger l.integer
  let signed (x : Binary64) : Number := .float (if l.negative then x.neg else x)
  if l.fraction = none ∧ l.exponent = none ∧ excess = 0 then
    if !l.negative then some (.int word)
    else if 0 < word ∧ word ≤ 0x8000000000000000 then some (.int (-word))
    else (Binary64.ofInt? word).map signed
  else
    let (word, taken) := collectFraction word 0 (l.fraction.getD [])
    let start : Int := (excess : Int) - taken
    match l.exponent with
    | none => ((Binary64.ofInt? word).bind (scale? · start)).map signed
    | some (below, digits) =>
      let e := exponentValue digits
      if 0x80000000 ≤ e then
        if word ≠ 0 ∧ !below then none else some (signed (Binary64.zero false))
      else
        let exponent := if below then max (start - e) (-0x80000000) else min (start + e) 0x7FFFFFFF
        ((Binary64.ofInt? word).bind (scale? · exponent)).map signed

end NumberLiteral
end ClassScribe.Json
