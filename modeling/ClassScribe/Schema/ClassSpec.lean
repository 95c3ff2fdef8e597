import ClassScribe.Schema.Accessor
import ClassScribe.Schema.Naming
import ClassScribe.Schema.ParamValue

/-! # Class specifications

What a class consists of: imports, parameter constants, accessors and hand-written scripts. -/

namespace ClassScribe

/-- The kinds of classes, each with a layout of its own. -/
inductive ClassKind
  | struct
  | enum
  | function
  deriving DecidableEq, Repr

/-- The name of a kind. -/
def ClassKind.name : ClassKind → String
  | .struct => "struct"
  | .enum => "enum"
  | .function => "function"

/-- All kinds. -/
def ClassKind.all : List ClassKind := [.struct, .enum, .function]

/-- The kind of a name. -/
def ClassKind.ofName? (name : String) : Option ClassKind := ClassKind.all.find? (·.name == name)

/-- A symbol that is imported from a module. -/
structure Import where
  what : String
  wherefrom : String
  deriving DecidableEq, Repr

/-- A parameter constant, with the comment lines of an enumeration entry. -/
structure Param where
  key : String
  value : ParamValue
  description : List String
  deriving DecidableEq, Repr

/-- A setter and a getter. -/
structure Method where
  /-- The key of the parameter constant. -/
  key : String
  /-- The name of the setter's argument. -/
  argument : String
  /-- The type of the value. -/
  type : ValueType
  /-- What follows `set` and `get` in the names. -/
  title : String
  /-- The comment lines. -/
  description : List String
  /-- The foreign type that is stored under the key, if there is one. -/
  external : Option String
  /-- The name in the schema. -/
  origin : String
  deriving DecidableEq, Repr

/-- A class to be generated. -/
structure ClassSpec where
  name : String
  kind : ClassKind
  description : String
  parent : String
  imports : List Import
  params : List Param
  methods : List Method
  scripts : List String
  functionId : Option String
  deriving DecidableEq, Repr

/-! ### Building parts -/

namespace Param

/-- A constant without a comment. -/
def plain (key : String) (value : ParamValue) : Param := ⟨key, value, []⟩

/-- The constant of a schema name: its key, and the name as a text. -/
def named (origin : String) : Param :=
  plain (String.ofList (Naming.constantKey origin.toList)) (.text origin)

/-- The constant with a comment, cleaned and in lines of the entry width. -/
def describe (p : Param) (ls : List String) : Param :=
  let text := Naming.cleanDescription (ls.map String.toList)
  { p with description := (Text.fill Naming.entryWidth text).map String.ofList }

end Param

namespace Method

/-- Comment lines for an argument, from a cleaned text. -/
def describe (width : Nat) (type : ValueType) (argument : String) (text : List Char) :
    List String :=
  (Naming.fillDescription width type.tag.toList argument.toList text).map String.ofList

/-- The accessors of a schema name. -/
def derive (origin : String) (type : ValueType) (description : List String)
    (external : Option String) (width : Nat) : Method :=
  let argument := String.ofList (Naming.argumentName origin.toList)
  { key := String.ofList (Naming.constantKey origin.toList)
    argument
    type
    title := String.ofList (Naming.methodTitle origin.toList)
    description :=
      describe width type argument (Naming.cleanDescription (description.map String.toList))
    external
    origin }

/-- How the accessors check, store and read. -/
def plan (m : Method) : Except AccessorPlan.Error AccessorPlan :=
  AccessorPlan.choose m.type m.external

/-- The accessors with their comment in lines of another width. -/
def rewrap (width : Nat) (m : Method) : Method :=
  if m.description.isEmpty then m
  else
    let text := Naming.cleanDescription [(Text.joinWith " " m.description).toList]
    { m with description := describe width m.type m.argument text }

end Method

namespace ClassSpec

/-- A class with nothing in it. -/
def blank (name : String) (kind : ClassKind) : ClassSpec :=
  ⟨name, kind, "", "", [], [], [], [], none⟩

/-- The class with all method comments in lines of another width. -/
def rewrap (width : Nat) (s : ClassSpec) : ClassSpec :=
  { s with methods := s.methods.map (Method.rewrap width) }

/-- The method with its schema name as argument, if the argument occurs more than once among `names`
and there is a schema name. -/
def separate (names : List String) (m : Method) : Method :=
  if 1 < names.count m.argument ∧ m.origin ≠ "" then { m with argument := m.origin } else m

/-- The class whose methods take their schema names as arguments where several have one argument. -/
def resolveCollisions (s : ClassSpec) : ClassSpec :=
  { s with methods := s.methods.map (separate (s.methods.map (·.argument))) }

end ClassSpec
end ClassScribe
