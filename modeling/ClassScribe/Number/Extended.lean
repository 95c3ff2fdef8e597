import ClassScribe.Number.Basic

/-! # Decimal numbers with a limit

Decimal texts of floating-point numbers, as schemas, settings and environments write them. A number
that is too large counts as infinite. -/

namespace ClassScribe

/-- A floating-point number, an infinity, or no number. -/
inductive Extended
  | finite (value : Binary64)
  | infinite (negative : Bool)
  | nan
  deriving DecidableEq, Repr

namespace Extended

/-- The value of decimal digits. -/
def valueOf (digits : List Char) : Nat := digits.foldl (fun n c => n * 10 + (c.toNat - 48)) 0

/-- A sign at the start, and what follows it. -/
def splitSign : List Char → Bool × List Char
  | '-' :: rest => (true, rest)
  | '+' :: rest => (false, rest)
  | s => (false, s)

/-- The exponent after the digits of a number: nothing, or the letter and a signed number. -/
def exponent? : List Char → Option Int
  | [] => some 0
  | e :: rest =>
    let (negative, digits) := splitSign rest
    if (e = 'e' ∨ e = 'E') ∧ digits ≠ [] ∧ digits.all Char.isDigit then
      some (if negative then -(valueOf digits : Int) else valueOf digits)
    else none

/-- The digits of a number, its scale, and what follows; at least one digit stands before or behind
the point. -/
def mantissa? (s : List Char) : Option (Nat × Int × List Char) :=
  let whole := s.takeWhile Char.isDigit
  let (places, rest) := match s.dropWhile Char.isDigit with
    | '.' :: rest => (rest.takeWhile Char.isDigit, rest.dropWhile Char.isDigit)
    | rest => ([], rest)
  if whole.isEmpty && places.isEmpty then none
  else some (valueOf (whole ++ places), -places.length, rest)

/-- The number of a decimal text without a sign. -/
def ofDigits? (negative : Bool) (s : List Char) : Option Extended := do
  let (n, scale, rest) ← mantissa? s
  let e ← exponent? rest
  match Binary64.ofDecimal? negative n (scale + e) with
  | some x => pure (.finite x)
  | none => pure (.infinite negative)

/-- The number of a text: a decimal number, or a word for infinity or for no number in any case. -/
def ofText? (s : List Char) : Option Extended :=
  let (negative, s) := splitSign s
  match String.ofList (s.map Char.toLower) with
  | "inf" | "infinity" => some (.infinite negative)
  | "nan" => some .nan
  | _ => ofDigits? negative s

end Extended
end ClassScribe
