import ClassScribe.Json5.Text
import ClassScribe.Settings.Setting

/-! # Scalars of JSON5

Numbers with a sign, of base sixteen, without digits on one side of the point, or without a value; words
and strings. -/

namespace ClassScribe.Json5

/-! ### Numbers -/

/-- The exponent at the start, if there is one, and what follows. -/
def splitExponent (s : List Char) : List Char × List Char :=
  match s with
  | e :: rest =>
    let sign := rest.takeWhile fun c => c == '+' || c == '-'
    let digits := (rest.drop sign.length).takeWhile Char.isDigit
    if (e = 'e' ∨ e = 'E') ∧ sign.length ≤ 1 ∧ digits ≠ [] then
      (e :: sign ++ digits, rest.drop (sign.length + digits.length))
    else ([], s)
  | [] => ([], [])

/-- The digits and the point of a decimal number without a sign, and what follows. -/
def splitDecimal? (s : List Char) : Option (List Char × List Char) :=
  let digits := s.takeWhile Char.isDigit
  let whole := if digits.head? = some '0' then ['0'] else digits
  match s.drop whole.length with
  | '.' :: rest =>
    let places := rest.takeWhile Char.isDigit
    if whole.isEmpty && places.isEmpty then none
    else some (whole ++ '.' :: places, rest.drop places.length)
  | rest => if whole.isEmpty then none else some (whole, rest)

/-- The number of a decimal literal. One without point and exponent is an integer of a signed word. -/
def decimal? (sign : List Char) (text exponent : List Char) : Option Setting :=
  if text.contains '.' || exponent ≠ [] then
    match Extended.ofText? (sign ++ text ++ exponent) with
    | some (.finite x) => some (.float (.finite x))
    | _ => none
  else
    (Numeral.value? 10 text).bind fun n =>
      let i : Int := if sign = ['-'] then -n else n
      if Number.InSignedRange i then some (.int i) else none

/-- A number behind its sign, and what follows. A hexadecimal number has no sign and 32 bits. -/
def readUnsigned? (sign s : List Char) : Option (Setting × List Char) :=
  let hexadecimal := (s.drop 2).takeWhile fun c => (Numeral.digit? c).isSome
  if (s.take 2 = ['0', 'x'] ∨ s.take 2 = ['0', 'X']) ∧ hexadecimal ≠ [] then do
    let n ← Numeral.value? 16 hexadecimal
    if sign = [] ∧ n ≤ 0xFFFFFFFF then pure (.int n, s.drop (2 + hexadecimal.length)) else none
  else
    match Text.dropLead? "Infinity".toList s, Text.dropLead? "NaN".toList s with
    | some r, _ => if sign = ['+'] then none else some (.float (.infinite (sign != [])), r)
    | _, some r => if sign = ['+'] then none else some (.float .nan, r)
    | none, none => do
      let (text, r) ← splitDecimal? s
      let (exponent, r) := splitExponent r
      pure (← decimal? sign text exponent, r)

/-- A number, and what follows. -/
def readNumber? : List Char → Option (Setting × List Char)
  | c :: rest => if c = '+' ∨ c = '-' then readUnsigned? [c] rest else readUnsigned? [] (c :: rest)
  | [] => none

/-! ### Scalars -/

/-- A word for nothing or a flag, and what follows. -/
def readWord? (s : List Char) : Option (Setting × List Char) :=
  match Text.dropLead? "null".toList s, Text.dropLead? "true".toList s,
      Text.dropLead? "false".toList s with
  | some r, _, _ => some (.nothing, r)
  | _, some r, _ => some (.flag true, r)
  | _, _, some r => some (.flag false, r)
  | _, _, _ => none

/-- A value without parts, and what follows. -/
def readScalar? (s : List Char) : Option (Setting × List Char) :=
  match s with
  | [] => none
  | c :: rest =>
    if c = '"' ∨ c = '\'' then (readString? c rest).map fun (t, r) => (.text t, r)
    else
      match readWord? s with
      | some found => some found
      | none => readNumber? s

end ClassScribe.Json5
