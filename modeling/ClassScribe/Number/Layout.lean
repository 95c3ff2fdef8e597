import ClassScribe.Number.Shortest

/-! # Number texts

How numbers are written: shortest digits with an exponent far from one in JSON texts, shortest
digits without an exponent in messages, and exact digits for whole numbers in class sources. -/

namespace ClassScribe

/-- Decimal digits. -/
def digitsOf (n : Nat) : List Char := Nat.toDigits 10 n

/-- An integer in decimal. -/
def intText (i : Int) : List Char :=
  if i < 0 then '-' :: digitsOf i.natAbs else digitsOf i.natAbs

namespace Binary64

/-- A minus sign for negative numbers, zero included. -/
def signText (x : Binary64) : List Char := if x.negative then ['-'] else []

/-- Digits with a decimal point at its place; a whole number ends as `whole` says. -/
def positional (whole : List Char) (digits : List Char) (scale : Int) : List Char :=
  if 0 ≤ scale then digits ++ List.replicate scale.toNat '0' ++ whole
  else
    let places := (-scale).toNat
    if places < digits.length then
      digits.take (digits.length - places) ++ '.' :: digits.drop (digits.length - places)
    else '0' :: '.' :: List.replicate (places - digits.length) '0' ++ digits

/-- One digit, the others behind a point, and a signed exponent. -/
def scientific (digits : List Char) (lead : Int) : List Char :=
  (match digits with
    | [] => []
    | [d] => [d]
    | d :: more => d :: '.' :: more) ++
  'e' :: (if lead < 0 then '-' else '+') :: digitsOf lead.natAbs

/-- The text of a number in JSON: a whole number keeps `.0`, and the exponents of the first digit from
-5 to 15 are written without an exponent. -/
def jsonText (x : Binary64) : List Char :=
  x.signText ++
    if x.isZero then ['0', '.', '0']
    else
      let (n, scale) := x.shortest .even
      let digits := digitsOf n
      let lead := scale + digits.length - 1
      if -5 ≤ lead ∧ lead < 16 then positional ['.', '0'] digits scale else scientific digits lead

/-- The text of a number in messages: never an exponent, and whole numbers without a point. -/
def plainText (x : Binary64) : List Char :=
  x.signText ++
    if x.isZero then ['0']
    else
      let (n, scale) := x.shortest .up
      positional [] (digitsOf n) scale

end Binary64
end ClassScribe
