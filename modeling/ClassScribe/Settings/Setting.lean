import ClassScribe.Number.Extended
import ClassScribe.Text.LetterCase

/-! # Settings

The values of configuration files and environments. The reader of a setting says what kind it needs,
and a setting of another kind is converted where that makes sense. -/

namespace ClassScribe

/-- The value of a setting. -/
inductive Setting
  | nothing
  | flag (value : Bool)
  | int (value : Int)
  | float (value : Extended)
  | text (value : String)
  | list (items : List Setting)
  | table (entries : List (String × Setting))
  deriving Inhabited

namespace Setting

/-! ### Conversions -/

/-- A text in small letters. -/
def lowered (s : String) : String := String.ofList (Text.lower s.toList)

/-- A setting as a flag: numbers count if they are not zero, and texts if they say yes or no. -/
def toFlag? : Setting → Option Bool
  | .flag b => some b
  | .int i => some (i != 0)
  | .float (.finite x) => some (!x.isZero)
  | .float _ => some true
  | .text s =>
    let word := lowered s
    if ["1", "true", "on", "yes"].contains word then some true
    else if ["0", "false", "off", "no"].contains word then some false
    else none
  | _ => none

/-- The largest count. -/
def maxCount : Nat := 0xFFFFFFFFFFFFFFFF

/-- The nearest count to a number; a half is rounded up. -/
def countOf : Extended → Nat
  | .finite x =>
    let (num, den) := x.fraction
    if x.negative then 0 else min maxCount ((2 * num + den) / (2 * den))
  | .infinite negative => if negative then 0 else maxCount
  | .nan => 0

/-- The count of a text of decimal digits. -/
def countOfText? (s : List Char) : Option Nat :=
  let digits := if s.head? = some '+' then s.drop 1 else s
  let n := Extended.valueOf digits
  if digits ≠ [] ∧ digits.all Char.isDigit ∧ n ≤ maxCount then some n else none

/-- A setting as a count. -/
def toCount? : Setting → Option Nat
  | .flag b => some (if b then 1 else 0)
  | .int i => if 0 ≤ i then some i.toNat else none
  | .float x => some (countOf x)
  | .text s =>
    let word := lowered s
    if ["true", "on", "yes"].contains word then some 1
    else if ["false", "off", "no"].contains word then some 0
    else countOfText? s.toList
  | _ => none

/-- The text of a floating-point number. -/
def floatText : Extended → String
  | .finite x => String.ofList x.plainText
  | .infinite negative => if negative then "-inf" else "inf"
  | .nan => "NaN"

/-- A setting as a text. -/
def toText? : Setting → Option String
  | .flag b => some (if b then "true" else "false")
  | .int i => some (String.ofList (intText i))
  | .float x => some (floatText x)
  | .text s => some s
  | _ => none

/-! ### Tables -/

/-- The entries of a table; any other setting has none. -/
def entriesOf : Setting → List (String × Setting)
  | .table entries => entries
  | _ => []

/-- The items of a list; any other setting has none. -/
def itemsOf : Setting → List Setting
  | .list items => items
  | _ => []

/-- The entries with one of them replaced or added. -/
def replace (key : String) (value : Setting) : List (String × Setting) → List (String × Setting)
  | [] => [(key, value)]
  | (k, v) :: rest => if k = key then (k, value) :: rest else (k, v) :: replace key value rest

mutual
/-- Sets an entry; a table is merged into the table that is there. -/
def merge (key : String) (value : Setting) (entries : List (String × Setting)) :
    List (String × Setting) :=
  match value with
  | .table incoming =>
    replace key (.table (mergeAll incoming (((entries.lookup key).map entriesOf).getD []))) entries
  | .nothing => replace key .nothing entries
  | .flag b => replace key (.flag b) entries
  | .int i => replace key (.int i) entries
  | .float x => replace key (.float x) entries
  | .text s => replace key (.text s) entries
  | .list items => replace key (.list items) entries
/-- Sets entries in a row. -/
def mergeAll (incoming : List (String × Setting)) (entries : List (String × Setting)) :
    List (String × Setting) :=
  match incoming with
  | [] => entries
  | (key, value) :: rest => mergeAll rest (merge key value entries)
end

end Setting
end ClassScribe
