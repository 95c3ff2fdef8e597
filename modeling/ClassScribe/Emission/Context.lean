import ClassScribe.Schema.Decoding
import ClassScribe.Template.Rendering

/-! # Contexts of classes

What the templates see of a class: its fields, the literals of its constants, and for every pair of
accessors the decisions on checking, storing and reading. -/

namespace ClassScribe.Context
open ClassScribe.Template (Frame Chain)

/-- An import, as templates see it. -/
def ofImport (i : Import) : Value := i.toValue

/-- A parameter constant, as templates see it. -/
def ofParam (p : Param) : Value :=
  .mapping (Value.ofFields
    [("key", .text p.key), ("value", .text p.value.literal), ("raw", .text p.value.lookupText),
      ("type", .text p.value.tag), ("description", Value.texts p.description)])

/-- The foreign type that a getter reads an object of. -/
def readType : Read → Option String
  | .object foreign => some foreign
  | .parameter => none

/-- A setter and a getter with the decisions on them, as templates see them. -/
def ofMethod (m : Method) (plan : AccessorPlan) : Value :=
  .mapping (Value.ofFields
    [("key", .text m.key), ("param_name", .text m.argument), ("type", .text m.type.tag),
      ("method_title", .text m.title), ("description", Value.texts m.description),
      ("external", Value.optionalText m.external), ("origin", .text m.origin),
      ("validate_type", Value.optionalText plan.validate),
      ("object_keyed", .bool (plan.storage == .object)),
      ("read_type", Value.optionalText (readType plan.read))])

/-- The methods from an index on, or the error of the first one that has no plan. -/
def ofMethods (className leaf : String) (index : Nat) :
    List Method → Except Template.Error (List Value)
  | [] => .ok []
  | m :: rest =>
    match m.plan with
    | .error cause => .error (.render className leaf none (.method index cause))
    | .ok plan => do
      let more ← ofMethods className leaf (index + 1) rest
      pure (ofMethod m plan :: more)

/-- The identifier of a function: the given one, or the class name without `ID` at its end. -/
def functionName (s : ClassSpec) : String :=
  match s.functionId with
  | some id => id
  | none => String.ofList (Naming.stripIdSuffix s.name.toList)

/-- The context of a class whose chain ends at `leaf`. -/
def ofSpec (s : ClassSpec) (leaf : String) : Except Template.Error Frame := do
  let methods ← ofMethods s.name leaf 0 s.methods
  pure (Value.ofFields
    [("name", .text s.name), ("kind", .text s.kind.name), ("description", .text s.description),
      ("extends", .text s.parent), ("func", .text (functionName s)),
      ("imports", .sequence (s.imports.map ofImport)), ("scripts", Value.texts s.scripts),
      ("params", .sequence (s.params.map ofParam)), ("methods", .sequence methods)])

end ClassScribe.Context
