import ClassScribe.Value

/-! # JSON documents

A document as it is written: members in their order, keys perhaps repeated. A string is missing
where the text has half of a surrogate pair, and a number where it is too large; both count only
when the value is looked at, so that what a reader skips needs no more than the right form. -/

namespace ClassScribe

/-- A JSON document. -/
inductive Json
  | null
  | bool (value : Bool)
  | number (value : Option Number)
  | string (value : Option String)
  | array (items : List Json)
  | object (members : List (Option String × Json))
  deriving Inhabited

namespace Json

/-- The number of arrays and objects that a document may nest when it is read as a value. -/
def maxDepth : Nat := 127

mutual
/-- The value of a document; of two members with one key the later one counts. `depth` arrays and
objects may still be opened. -/
def toValue? (depth : Nat) : Json → Option Value
  | .null => some .none
  | .bool b => some (.bool b)
  | .number n => n.map .number
  | .string s => s.map .text
  | .array items =>
    match depth with
    | 0 => none
    | depth + 1 => (toValues? depth items).map .sequence
  | .object members =>
    match depth with
    | 0 => none
    | depth + 1 => (toFields? depth members).map fun fs => .mapping (Value.ofFields fs)
/-- The values of the items of an array. -/
def toValues? (depth : Nat) : List Json → Option (List Value)
  | [] => some []
  | x :: rest => do
    let v ← toValue? depth x
    let vs ← toValues? depth rest
    pure (v :: vs)
/-- The fields of the members of an object. -/
def toFields? (depth : Nat) : List (Option String × Json) → Option (List (String × Value))
  | [] => some []
  | (k, x) :: rest => do
    let k ← k
    let v ← toValue? depth x
    let vs ← toFields? depth rest
    pure ((k, v) :: vs)
end

mutual
/-- The document that a value is written as. -/
def ofValue : Value → Json
  | .none => .null
  | .bool b => .bool b
  | .number n => .number (some n)
  | .text s => .string (some s)
  | .sequence items => .array (ofValues items)
  | .mapping fields => .object (ofFields fields)
/-- The documents of a list of values. -/
def ofValues : List Value → List Json
  | [] => []
  | x :: rest => ofValue x :: ofValues rest
/-- The members of a list of fields. -/
def ofFields : List (String × Value) → List (Option String × Json)
  | [] => []
  | (k, x) :: rest => (some k, ofValue x) :: ofFields rest
end

end Json
end ClassScribe
