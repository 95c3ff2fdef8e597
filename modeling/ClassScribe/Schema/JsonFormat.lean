import ClassScribe.Json.Codec
import ClassScribe.Schema.Decoding

/-! # Specifications in JSON

How JSON documents are taken. -/

namespace ClassScribe.Json

/-- A string. -/
def text? : Json → Option String
  | .string s => s
  | _ => none

/-- A string, or null for none. -/
def optionalText? : Json → Option (Option String)
  | .null => some none
  | .string s => s.map some
  | _ => none

/-- The items of an array. -/
def list? : Json → Option (List Json)
  | .array items => some items
  | _ => none

/-- The members of an object whose keys are all readable. -/
def readableMembers : List (Option String × Json) → Option (List (String × Json))
  | [] => some []
  | (key, x) :: rest => do
    let key ← key
    let rest ← readableMembers rest
    pure ((key, x) :: rest)

/-- A record. -/
def record? : Json → Option (Record Json)
  | .array items => some (.listed items)
  | .object members => (readableMembers members).map .named
  | _ => none

/-- A kind of class: its name, or an object with its name as the only key and null as value. -/
def kind? : Json → Option ClassKind
  | .string s => s.bind ClassKind.ofName?
  | .object [(key, .null)] => key.bind ClassKind.ofName?
  | _ => none

/-- The value of a parameter constant: a number, a string, or an object with a string under `ref`.
The object is read as a whole, so what else it holds has to be a value. -/
def paramValue? (depth : Nat) (doc : Json) : Option ParamValue := do
  let _ ← toValue? depth doc
  match doc with
  | .number n => n.map .number
  | .string s => s.map .text
  | .object members =>
    match members.filter (·.1 == some "ref") with
    | [(_, .string s)] => s.map .reference
    | _ => none
  | _ => none

/-- How JSON documents are taken. A value of a parameter constant stands inside three records and
lists. -/
def format : Format Json :=
  ⟨text?, optionalText?, list?, record?, kind?, paramValue? (maxDepth - 3)⟩

/-- The specifications in the texts of a codec. -/
def Codec.reader (c : Codec) : DocumentReader := ⟨Json, format, c.read?⟩

theorem Codec.spec?_reader (c : Codec) (content : String) :
    c.reader.spec? content = (c.read? content).bind format.spec? := rfl

end ClassScribe.Json
