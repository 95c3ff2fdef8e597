import ClassScribe.Json.Document

/-! # Writers and readers of JSON

A codec writes values as texts and reads documents from texts. It carries no laws. What one can rely on is a
predicate of a codec instead (`Codec.RereadsBy`): what has been written is read as it has been, up to numbers,
since the digits of a fraction may be read as a number close to it. -/

namespace ClassScribe

mutual
/-- The number of sequences and mappings that stand inside each other in a value. -/
def Value.depth : Value → Nat
  | .sequence items => depthOfItems items + 1
  | .mapping fields => depthOfFields fields + 1
  | _ => 0
/-- The greatest depth of items. -/
def Value.depthOfItems : List Value → Nat
  | [] => 0
  | v :: rest => max (depth v) (depthOfItems rest)
/-- The greatest depth of fields. -/
def Value.depthOfFields : List (String × Value) → Nat
  | [] => 0
  | (_, v) :: rest => max (depth v) (depthOfFields rest)
end

namespace Json

mutual
/-- The document of a value, with its numbers taken through a function. -/
def ofValueBy (f : Number → Option Number) : Value → Json
  | .none => .null
  | .bool b => .bool b
  | .number n => .number (f n)
  | .text s => .string (some s)
  | .sequence items => .array (ofValuesBy f items)
  | .mapping fields => .object (ofFieldsBy f fields)
/-- The documents of a list of values. -/
def ofValuesBy (f : Number → Option Number) : List Value → List Json
  | [] => []
  | x :: rest => ofValueBy f x :: ofValuesBy f rest
/-- The members of a list of fields. -/
def ofFieldsBy (f : Number → Option Number) : List (String × Value) → List (Option String × Json)
  | [] => []
  | (k, x) :: rest => (some k, ofValueBy f x) :: ofFieldsBy f rest
end

/-- All numbers in a document have a property. -/
inductive Holds (P : Number → Prop) : Json → Prop
  | null : Holds P .null
  | bool {b : Bool} : Holds P (.bool b)
  | number {n : Option Number} : (∀ m ∈ n, P m) → Holds P (.number n)
  | string {x : Option String} : Holds P (.string x)
  | array {xs : List Json} : (∀ x ∈ xs, Holds P x) → Holds P (.array xs)
  | object {ms : List (Option String × Json)} : (∀ m ∈ ms, Holds P m.2) → Holds P (.object ms)

/-- A writer of values and a reader of documents. -/
structure Codec where
  write : Value → String
  read? : String → Option Json

/-- A codec reads what it has written, with the numbers that a function gives. -/
structure Codec.RereadsBy (c : Codec) (reread : Number → Option Number) : Prop where
  /-- The text of a value that does not nest too deep is read as the value, up to the numbers. -/
  reads : ∀ v : Value, v.depth ≤ maxDepth → c.read? (c.write v) = some (ofValueBy reread v)
  /-- An integer of 64 bits is read as it is. -/
  integers : ∀ i, Number.InRange i → reread (.int i) = some (.int i)
  /-- The integers that are read have 64 bits. -/
  bounds : ∀ content doc, c.read? content = some doc → doc.Holds fun n => ∀ i, n = .int i → Number.InRange i

end Json
end ClassScribe
