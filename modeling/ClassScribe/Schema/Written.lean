import Mathlib.Data.List.Perm.Basic
import ClassScribe.Schema.Decoding

/-! # Specifications written with their fields in any order

A record may be written with its fields as they are declared, or in the order of their keys; a reader does
not see the difference. A text may give other numbers than have been written, so the numbers of a
specification can be taken through a function. -/

namespace ClassScribe

/-- An order in which the fields of records are written, none left out and none added. -/
structure FieldOrder where
  arrange : List (String × Value) → List (String × Value)
  perm : ∀ fields : List (String × Value), (fields.map (·.1)).Nodup → (arrange fields).Perm fields

/-- The fields as they are declared. -/
def FieldOrder.declared : FieldOrder := ⟨id, fun _ _ => .refl _⟩

/-! ### Writing -/

/-- The fields of an import. -/
def Import.written (order : FieldOrder) (i : Import) : Value :=
  .mapping (order.arrange [("what", .text i.what), ("wherefrom", .text i.wherefrom)])

/-- The fields of a parameter constant; an empty comment is left out. -/
def Param.written (order : FieldOrder) (p : Param) : Value :=
  .mapping (order.arrange
    ([("key", .text p.key), ("value", p.value.toValue)] ++
      if p.description.isEmpty then [] else [("description", Value.texts p.description)]))

/-- The fields of a setter and a getter. -/
def Method.written (order : FieldOrder) (m : Method) : Value :=
  .mapping (order.arrange
    [("key", .text m.key), ("param_name", .text m.argument), ("type", .text m.type.tag),
      ("method_title", .text m.title), ("description", Value.texts m.description),
      ("external", Value.optionalText m.external), ("origin", .text m.origin)])

/-- The fields of a specification; a missing function identifier is left out. -/
def ClassSpec.written (order : FieldOrder) (s : ClassSpec) : Value :=
  .mapping (order.arrange
    ([("name", .text s.name), ("kind", .text s.kind.name), ("description", .text s.description),
      ("extends", .text s.parent), ("imports", .sequence (s.imports.map (Import.written order))),
      ("params", .sequence (s.params.map (Param.written order))),
      ("methods", .sequence (s.methods.map (Method.written order))),
      ("scripts", Value.texts s.scripts)] ++
      match s.functionId with
      | some id => [("function_id", .text id)]
      | none => []))

/-! ### Numbers -/

/-- The value with its number taken through a function. -/
def ParamValue.renumber? (f : Number → Option Number) : ParamValue → Option ParamValue
  | .number n => (f n).map .number
  | .text s => some (.text s)
  | .reference source => some (.reference source)

/-- The constant with its number taken through a function. -/
def Param.renumber? (f : Number → Option Number) (p : Param) : Option Param :=
  (p.value.renumber? f).map fun value => { p with value }

/-- The specification with the numbers of its constants taken through a function. -/
def ClassSpec.renumber? (f : Number → Option Number) (s : ClassSpec) : Option ClassSpec :=
  (s.params.mapM (Param.renumber? f)).map fun params => { s with params }

end ClassScribe
