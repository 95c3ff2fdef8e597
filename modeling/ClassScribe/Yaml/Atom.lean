import ClassScribe.Number.Extended
import ClassScribe.Number.Numeral
import ClassScribe.Yaml.Document

/-! # What scalars mean

A plain scalar without a tag may be a null, a flag or a number; any other scalar is a text, unless a
standard tag says what it is. -/

namespace ClassScribe.Yaml

/-- What a scalar means. A number is missing where it has no finite value. -/
inductive Atom
  | null
  | bool (value : Bool)
  | number (value : Option Number)
  | text (value : String)
  deriving DecidableEq, Repr

/-! ### Words and numbers -/

/-- A word for nothing. -/
def isNull (text : String) : Bool :=
  text == "null" || text == "Null" || text == "NULL" || text == "~"

/-- The flag of a word. -/
def flag? (text : String) : Option Bool :=
  if text = "true" ∨ text = "True" ∨ text = "TRUE" then some true
  else if text = "false" ∨ text = "False" ∨ text = "FALSE" then some false
  else none

/-- Digits behind a zero: they are no number. -/
def hasLeadingZero : List Char → Bool
  | '0' :: d :: rest => (d :: rest).all Char.isDigit
  | _ => false

/-- The value of an integer without a sign, to base ten or to the base that a letter tells. -/
def natural? : List Char → Option Nat
  | '0' :: 'x' :: digits => Numeral.value? 16 digits
  | '0' :: 'o' :: digits => Numeral.value? 8 digits
  | '0' :: 'b' :: digits => Numeral.value? 2 digits
  | digits => if hasLeadingZero digits then none else Numeral.value? 10 digits

/-- The integer of a text. -/
def integer? : List Char → Option Int
  | '-' :: digits => (natural? digits).map fun n => -(n : Int)
  | '+' :: digits => (natural? digits).map Int.ofNat
  | digits => (natural? digits).map Int.ofNat

/-- A word for infinity or for no number. -/
def isUnbounded (s : List Char) : Bool :=
  let body := (Extended.splitSign s).2
  body == ".inf".toList || body == ".Inf".toList || body == ".INF".toList ||
    s == ".nan".toList || s == ".NaN".toList || s == ".NAN".toList

/-- The floating-point number of a text; the inner one is missing where it is not finite. -/
def float? (s : List Char) : Option (Option Number) :=
  if isUnbounded s then some none
  else
    match Extended.ofText? s with
    | some (.finite x) => some (some (.float x))
    | _ => none

/-- The integers that 128 bits hold, with or without a sign. -/
def isLong (i : Int) : Bool := -(1 <<< 127) ≤ i && i < 1 <<< 128

/-- What a number means. An integer that is too long for 64 bits is an error, unless it is too long
for 128 bits too, which makes it a floating-point number. -/
def number? (s : List Char) : Option (Option Atom) :=
  match integer? s with
  | some i =>
    if Number.InRange i then some (some (.number (some (.int i))))
    else if isLong i then none
    else some ((float? s).map .number)
  | none => if hasLeadingZero (Extended.splitSign s).2 then some none
    else some ((float? s).map .number)

/-- What a plain scalar without a tag means. -/
def plainAtom? (text : String) : Option Atom :=
  if text = "" || isNull text then some .null
  else
    match flag? text with
    | some b => some (.bool b)
    | none => (number? text.toList).map (·.getD (.text text))

/-! ### Tags -/

/-- A tag of the document's own, which names a variant. -/
def variant? (tag : Option String) : Option String :=
  match tag.map String.toList with
  | some ('!' :: name) => some (String.ofList name)
  | _ => none

/-- The standard tag of a name. -/
def standardTag (name : String) : String := "tag:yaml.org,2002:" ++ name

/-- What a scalar means. A tag of the document's own has no meaning. -/
def atom? (tag : Option String) (text : String) (plain : Bool) : Option Atom :=
  match tag with
  | none => if plain then plainAtom? text else some (.text text)
  | some t =>
    if (variant? tag).isSome then none
    else if t = standardTag "bool" then (flag? text).map .bool
    else if t = standardTag "int" then
      (integer? text.toList).bind fun i =>
        if Number.InRange i then some (.number (some (.int i))) else none
    else if t = standardTag "float" then (float? text.toList).map .number
    else if t = standardTag "null" then (if isNull text then some .null else none)
    else some (.text text)

end ClassScribe.Yaml
