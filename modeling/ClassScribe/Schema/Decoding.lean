import ClassScribe.Schema.ClassSpec
import ClassScribe.Value

/-! # Reading and writing specifications

A specification is read from the nodes of a document, whatever its format is; the format says how a
node is taken as a text, a list or a record. A record is a mapping, whose unknown keys are skipped
and whose known keys may stand only once, or a list of its fields in their order, of which the last
ones may be missing if they have defaults. -/

namespace ClassScribe

/-- A record as it stands in a document. -/
inductive Record (ν : Type)
  | named (fields : List (String × ν))
  | listed (items : List ν)

/-- How the nodes of a format are taken. -/
structure Format (ν : Type) where
  text? : ν → Option String
  optionalText? : ν → Option (Option String)
  list? : ν → Option (List ν)
  record? : ν → Option (Record ν)
  kind? : ν → Option ClassKind
  paramValue? : ν → Option ParamValue

namespace Format

variable {ν : Type} (f : Format ν)

/-! ### Fields -/

/-- The fields of a record in their order; a missing field is `none`. -/
def arrange (names : List String) : Record ν → Option (List (Option ν))
  | .named fields =>
    if names.all fun n => (fields.filter (·.1 == n)).length ≤ 1 then
      some (names.map (fields.lookup ·))
    else none
  | .listed items =>
    if items.length ≤ names.length then
      some (items.map some ++ List.replicate (names.length - items.length) none)
    else none

/-- The fields of a node that is a record. -/
def fields? (names : List String) (n : ν) : Option (List (Option ν)) := do
  arrange names (← f.record? n)

/-- Reads a field that may be missing. -/
def orDefault {α : Type} (read : ν → Option α) (fallback : α) : Option ν → Option α
  | some n => read n
  | none => some fallback

/-- Reads a list of things. -/
def listOf {α : Type} (read : ν → Option α) (n : ν) : Option (List α) := do
  (← f.list? n).mapM read

/-! ### Parts of a specification -/

/-- A type tag. -/
def type? (n : ν) : Option ValueType := do
  (ValueType.ofTag (← f.text? n)).toOption

/-- An import. -/
def import? (n : ν) : Option Import := do
  match ← f.fields? ["what", "wherefrom"] n with
  | [what, wherefrom] => pure ⟨← f.text? (← what), ← f.text? (← wherefrom)⟩
  | _ => none

/-- A parameter constant. -/
def param? (n : ν) : Option Param := do
  match ← f.fields? ["key", "value", "description"] n with
  | [key, value, description] =>
    let key ← f.text? (← key)
    let value ← f.paramValue? (← value)
    let description ← orDefault (f.listOf f.text?) [] description
    pure ⟨key, value, description⟩
  | _ => none

/-- A setter and a getter. -/
def method? (n : ν) : Option Method := do
  match ← f.fields?
      ["key", "param_name", "type", "method_title", "description", "external", "origin"] n with
  | [key, argument, type, title, description, external, origin] =>
    let key ← f.text? (← key)
    let argument ← f.text? (← argument)
    let type ← f.type? (← type)
    let title ← f.text? (← title)
    let description ← orDefault (f.listOf f.text?) [] description
    let external ← orDefault f.optionalText? none external
    let origin ← orDefault f.text? "" origin
    pure ⟨key, argument, type, title, description, external, origin⟩
  | _ => none

/-- A specification. -/
def spec? (n : ν) : Option ClassSpec := do
  match ← f.fields?
      ["name", "kind", "description", "extends", "imports", "params", "methods", "scripts",
        "function_id"] n with
  | [name, kind, description, parent, imports, params, methods, scripts, functionId] =>
    let name ← f.text? (← name)
    let kind ← orDefault f.kind? .struct kind
    let description ← orDefault f.text? "" description
    let parent ← orDefault f.text? "" parent
    let imports ← orDefault (f.listOf f.import?) [] imports
    let params ← orDefault (f.listOf f.param?) [] params
    let methods ← orDefault (f.listOf f.method?) [] methods
    let scripts ← orDefault (f.listOf f.text?) [] scripts
    let functionId ← orDefault f.optionalText? none functionId
    pure ⟨name, kind, description, parent, imports, params, methods, scripts, functionId⟩
  | _ => none

end Format

/-- A reader of documents in a format: the node that a text is read as, and how nodes are taken. -/
structure DocumentReader where
  Node : Type
  format : Format Node
  read? : String → Option Node

/-- The specification of a text. -/
def DocumentReader.spec? (r : DocumentReader) (content : String) : Option ClassSpec :=
  (r.read? content).bind r.format.spec?

/-! ### Writing -/

/-- A list of texts as a value. -/
def Value.texts (ls : List String) : Value := .sequence (ls.map .text)

/-- A text that may be missing as a value. -/
def Value.optionalText : Option String → Value
  | some s => .text s
  | Option.none => .none

/-- The written form of the value of a parameter constant. -/
def ParamValue.toValue : ParamValue → Value
  | .number n => .number n
  | .text s => .text s
  | .reference source => .mapping [("ref", .text source)]

/-- The written form of an import. -/
def Import.toValue (i : Import) : Value :=
  .mapping (Value.ofFields [("what", .text i.what), ("wherefrom", .text i.wherefrom)])

/-- The written form of a parameter constant; an empty comment is left out. -/
def Param.toValue (p : Param) : Value :=
  .mapping (Value.ofFields
    ([("key", .text p.key), ("value", p.value.toValue)] ++
      if p.description.isEmpty then [] else [("description", Value.texts p.description)]))

/-- The written form of a setter and a getter. -/
def Method.toValue (m : Method) : Value :=
  .mapping (Value.ofFields
    [("key", .text m.key), ("param_name", .text m.argument), ("type", .text m.type.tag),
      ("method_title", .text m.title), ("description", Value.texts m.description),
      ("external", Value.optionalText m.external), ("origin", .text m.origin)])

/-- The written form of a specification; a missing function identifier is left out. -/
def ClassSpec.toValue (s : ClassSpec) : Value :=
  .mapping (Value.ofFields
    ([("name", .text s.name), ("kind", .text s.kind.name), ("description", .text s.description),
      ("extends", .text s.parent), ("imports", .sequence (s.imports.map Import.toValue)),
      ("params", .sequence (s.params.map Param.toValue)),
      ("methods", .sequence (s.methods.map Method.toValue)), ("scripts", Value.texts s.scripts)] ++
      match s.functionId with
      | some id => [("function_id", .text id)]
      | none => []))

end ClassScribe
