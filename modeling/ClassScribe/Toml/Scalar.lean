import ClassScribe.Number.Numeral
import ClassScribe.Settings.Setting

/-! # TOML numbers, flags and dates

What a word stands for that is no string. A date or a time is kept as its text in normal form. -/

namespace ClassScribe.Toml

/-! ### Digits -/

/-- The digits of a group, without the underscores between them. -/
def digits? (isDigit : Char → Bool) (s : List Char) : Option (List Char) :=
  let groups := s.splitOn '_'
  if groups.all fun g => !g.isEmpty && g.all isDigit then some groups.flatten else none

/-- Decimal digits that do not start with a zero, unless it stands alone. -/
def whole? (s : List Char) : Option (List Char) :=
  (digits? Char.isDigit s).filter fun ds => ds.length == 1 || ds.head? != some '0'

/-! ### Numbers -/

/-- The integer of a base, if a signed word holds it. -/
def integerOf? (negative : Bool) (base : Nat) (digits : List Char) : Option Setting :=
  (Numeral.value? base digits).bind fun n =>
    let i : Int := if negative then -n else n
    if Number.InSignedRange i then some (.int i) else none

/-- The integer of a word. Only a decimal one has a sign. -/
def integer? (s : List Char) : Option Setting :=
  let digitsOf (base : Nat) (s : List Char) :=
    (digits? (fun c => (Numeral.value? base [c]).isSome) s).bind (integerOf? false base)
  match s with
  | '0' :: 'x' :: rest => digitsOf 16 rest
  | '0' :: 'o' :: rest => digitsOf 8 rest
  | '0' :: 'b' :: rest => digitsOf 2 rest
  | s =>
    let (negative, body) := Extended.splitSign s
    (whole? body).bind (integerOf? negative 10)

/-- The fraction and the exponent of a number, each with its lead and without underscores. -/
def fractionText? (s : List Char) : Option (List Char) :=
  let places := s.takeWhile fun c => c ≠ 'e' ∧ c ≠ 'E'
  let exponent := s.dropWhile fun c => c ≠ 'e' ∧ c ≠ 'E'
  let places? := match places with
    | [] => some []
    | '.' :: ds => (digits? Char.isDigit ds).map ('.' :: ·)
    | _ => none
  let exponent? := match exponent with
    | [] => some []
    | _ :: e =>
      let (negative, ds) := Extended.splitSign e
      (digits? Char.isDigit ds).map fun ds => 'e' :: (if negative then '-' else '+') :: ds
  match places?, exponent? with
  | some p, some e => some (p ++ e)
  | _, _ => none

/-- The floating-point number of a word, which has a fraction or an exponent. One that is too large
for a binary number is none, unless it is negative. -/
def float? (s : List Char) : Option Setting :=
  let (negative, body) := Extended.splitSign s
  match String.ofList body with
  | "inf" => some (.float (.infinite negative))
  | "nan" => some (.float .nan)
  | _ => do
    let lead := body.takeWhile fun c => c.isDigit || c = '_'
    let whole ← whole? lead
    let rest ← fractionText? (body.drop lead.length)
    let x ← Extended.ofDigits? negative (whole ++ rest)
    if rest.isEmpty || x = .infinite false then none else some (.float x)

/-! ### Dates and times -/

/-- The number of two digits, at most `most`. -/
def twoDigits? (most : Nat) (a b : Char) : Option Nat :=
  let n := Extended.valueOf [a, b]
  if a.isDigit && b.isDigit && n ≤ most then some n else none

/-- The number of days of a month. -/
def daysOf (year month : Nat) : Nat :=
  if month = 2 then
    if year % 4 = 0 ∧ (year % 100 ≠ 0 ∨ year % 400 = 0) then 29 else 28
  else if month = 4 ∨ month = 6 ∨ month = 9 ∨ month = 11 then 30
  else 31

/-- A date at the start, and what follows it. -/
def date? : List Char → Option (List Char × List Char)
  | y1 :: y2 :: y3 :: y4 :: '-' :: m1 :: m2 :: '-' :: d1 :: d2 :: rest => do
    let century ← twoDigits? 99 y1 y2
    let year ← twoDigits? 99 y3 y4
    let month ← twoDigits? 12 m1 m2
    let day ← twoDigits? (daysOf (century * 100 + year) month) d1 d2
    if 1 ≤ month ∧ 1 ≤ day then
      some ([y1, y2, y3, y4, '-', m1, m2, '-', d1, d2], rest)
    else none
  | _ => none

/-- The places of a second, at most nine and without zeros at the end, and what follows. -/
def places? : List Char → Option (List Char × List Char)
  | '.' :: rest =>
    let digits := rest.takeWhile Char.isDigit
    let kept := ((digits.take 9).reverse.dropWhile (· == '0')).reverse
    if digits.isEmpty then none
    else some (if kept.isEmpty then [] else '.' :: kept, rest.drop digits.length)
  | rest => some ([], rest)

/-- A time of day at the start, and what follows it. A minute may have a leap second. -/
def time? : List Char → Option (List Char × List Char)
  | h1 :: h2 :: ':' :: m1 :: m2 :: ':' :: s1 :: s2 :: rest => do
    let _ ← twoDigits? 23 h1 h2
    let _ ← twoDigits? 59 m1 m2
    let _ ← twoDigits? 60 s1 s2
    let (places, rest) ← places? rest
    some ([h1, h2, ':', m1, m2, ':', s1, s2] ++ places, rest)
  | _ => none

/-- The offset at the end of a time. -/
def offset? : List Char → Option (List Char)
  | [] => some []
  | ['Z'] | ['z'] => some ['Z']
  | [sign, h1, h2, ':', m1, m2] => do
    let hours ← twoDigits? 23 h1 h2
    let minutes ← twoDigits? 59 m1 m2
    let sign := if hours = 0 ∧ minutes = 0 ∧ sign = '-' then '+' else sign
    if sign = '+' ∨ sign = '-' then some [sign, h1, h2, ':', m1, m2] else none
  | _ => none

/-- A date, a time, or a date with a time, which may have an offset. -/
def moment? (s : List Char) : Option (List Char) :=
  match date? s with
  | some (date, []) => some date
  | some (date, mark :: rest) => do
    let (time, rest) ← time? rest
    let offset ← offset? rest
    if mark = 'T' ∨ mark = 't' ∨ mark = ' ' then some (date ++ 'T' :: time ++ offset) else none
  | none => do
    let (time, rest) ← time? s
    if rest.isEmpty then some time else none

/-! ### Words -/

/-- A character of a word. -/
def isWordChar (c : Char) : Bool :=
  c.isAlphanum || c == '_' || c == '+' || c == '-' || c == '.' || c == ':'

/-- The word at the start. A date takes the time behind one space with it. -/
def wordAt (s : List Char) : List Char :=
  let word := s.takeWhile isWordChar
  match date? word, s.drop word.length with
  | some (_, []), ' ' :: d :: rest =>
    if d.isDigit then word ++ ' ' :: (d :: rest).takeWhile isWordChar else word
  | _, _ => word

/-- What a word stands for. -/
def ofWord? (word : List Char) : Option Setting :=
  match String.ofList word with
  | "true" => some (.flag true)
  | "false" => some (.flag false)
  | _ =>
    ((integer? word).or (float? word)).or ((moment? word).map fun m => .text (String.ofList m))

end ClassScribe.Toml
