import ClassScribe.Schema.ValueType

/-! # Accessors

How a setter checks and stores its value and how the getter reads it back, decided by the type of
the value and by the foreign type that is stored under the key, if there is one. -/

namespace ClassScribe

/-- Where a setter stores its value. -/
inductive Storage
  | parameter
  | object
  deriving DecidableEq, Repr

/-- How a getter reads a value back: as a parameter, or as an object of a foreign type. -/
inductive Read
  | parameter
  | object (foreign : String)
  deriving DecidableEq, Repr

/-- The decision for a setter and its getter; `validate` is the type that the setter checks for. -/
structure AccessorPlan where
  storage : Storage
  validate : Option String
  read : Read
  deriving DecidableEq, Repr

namespace AccessorPlan

/-- Why there is no decision. -/
inductive Error
  | emptyExternal
  | unresolved (name : String)
  deriving DecidableEq, Repr

/-- The text of the failure. -/
def Error.message : Error → String
  | .emptyExternal => "external type is empty"
  | .unresolved name => "named type `" ++ name ++ "` requires an external type"

/-- The field of the method that the failure is about. -/
def Error.field : Error → String
  | .emptyExternal => "external"
  | .unresolved _ => "type"

/-- The way of reading for an optional foreign type. -/
def readOf : Option String → Read
  | some foreign => .object foreign
  | none => .parameter

/-- The decision table. Numbers, flags and arrays are stored as parameters unchecked; anything else
with a foreign type is an object of that type; a string without one is a checked parameter. -/
def choose (type : ValueType) (foreign : Option String) : Except Error AccessorPlan :=
  if foreign = some "" then .error .emptyExternal
  else
    match type, foreign with
    | .scalar .number, _ | .scalar .boolean, _ | .array _, _ =>
      .ok ⟨.parameter, none, readOf foreign⟩
    | .scalar .string, some f | .named _, some f => .ok ⟨.object, some f, .object f⟩
    | .scalar .string, none => .ok ⟨.parameter, some "String", .parameter⟩
    | .named name, none => .error (.unresolved name)

end AccessorPlan
end ClassScribe
