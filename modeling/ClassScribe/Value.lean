import ClassScribe.Number.Basic

/-! # Values

The values that templates compute with and that a rendering context holds. The fields of a mapping
stand in the order of their keys, each key once, so that equal mappings are equal lists. -/

namespace ClassScribe

/-- The kinds of values. -/
inductive Kind
  | none
  | boolean
  | number
  | string
  | sequence
  | mapping
  deriving DecidableEq, Repr

/-- The name of a kind in messages. -/
def Kind.name : Kind → String
  | .none => "none"
  | .boolean => "boolean"
  | .number => "number"
  | .string => "string"
  | .sequence => "sequence"
  | .mapping => "mapping"

/-- A value of a context or of an expression. -/
inductive Value
  | none
  | bool (value : Bool)
  | number (value : Number)
  | text (value : String)
  | sequence (items : List Value)
  | mapping (fields : List (String × Value))
  deriving Repr, Inhabited

namespace Value

/-! ### Equality -/

mutual
/-- Whether two values are equal. An integer and a floating-point number never are; the two zeros are. -/
def same : Value → Value → Bool
  | .none, .none => true
  | .bool a, .bool b => a == b
  | .number a, .number b => a.same b
  | .text a, .text b => a == b
  | .sequence xs, .sequence ys => sameItems xs ys
  | .mapping xs, .mapping ys => sameFields xs ys
  | _, _ => false
/-- Whether two lists hold equal values. -/
def sameItems : List Value → List Value → Bool
  | [], [] => true
  | x :: xs, y :: ys => same x y && sameItems xs ys
  | _, _ => false
/-- Whether two lists hold the same keys and equal values. -/
def sameFields : List (String × Value) → List (String × Value) → Bool
  | [], [] => true
  | (k, x) :: xs, (l, y) :: ys => k == l && same x y && sameFields xs ys
  | _, _ => false
end

/-! ### Fields -/

/-- The value of a key. -/
def field? (fields : List (String × Value)) (key : String) : Option Value := fields.lookup key

/-- Sets the value of a key and keeps the order of the keys. -/
def setField (key : String) (value : Value) : List (String × Value) → List (String × Value)
  | [] => [(key, value)]
  | (k, v) :: rest =>
    if key = k then (key, value) :: rest
    else if key < k then (key, value) :: (k, v) :: rest
    else (k, v) :: setField key value rest

/-- The mapping of a list of fields; of two fields with one key the later one counts. -/
def ofFields (fields : List (String × Value)) : List (String × Value) :=
  fields.foldl (fun acc f => setField f.1 f.2 acc) []

/-! ### Kinds and conversions -/

/-- The kind of a value. -/
def kind : Value → Kind
  | .none => .none
  | .bool _ => .boolean
  | .number _ => .number
  | .text _ => .string
  | .sequence _ => .sequence
  | .mapping _ => .mapping

/-- An integer as a value. -/
def int (i : Int) : Value := .number (.int i)

/-- A floating-point result, which is none if there is no such number. -/
def ofFloat (x : Option Binary64) : Value :=
  match x with
  | some x => .number (.float x)
  | Option.none => .none

/-- Whether a condition holds: not for none, false, zero, and what is empty. -/
def truthy : Value → Bool
  | .none => false
  | .bool b => b
  | .number n => n.toBinary64?.any (!·.isZero)
  | .text s => !s.isEmpty
  | .sequence items => !items.isEmpty
  | .mapping fields => !fields.isEmpty

/-- The text that a value is printed as; sequences, mappings and none have none. -/
def display? : Value → Option String
  | .text s => some s
  | .number n => some (String.ofList n.text)
  | .bool b => some (if b then "true" else "false")
  | _ => Option.none

end Value
end ClassScribe
