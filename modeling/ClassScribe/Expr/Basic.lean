import ClassScribe.Json.Text
import ClassScribe.Text.Quoted

/-! # Expressions

The expressions inside output tags and statement tags, how messages refer to them, and the filters
that they use. -/

namespace ClassScribe

/-- A constant in an expression. -/
inductive Literal
  | none
  | bool (value : Bool)
  | number (value : Number)
  | text (value : String)
  deriving DecidableEq, Repr

/-- The value of a constant. -/
def Literal.value : Literal → Value
  | .none => .none
  | .bool b => .bool b
  | .number n => .number n
  | .text s => .text s

/-- What can be asked of a value with `is`. -/
inductive Property
  | defined
  | undefined
  | none
  | string
  | number
  | sequence
  | mapping
  deriving DecidableEq, Repr

/-- All properties. -/
def Property.all : List Property :=
  [.defined, .undefined, .none, .string, .number, .sequence, .mapping]

/-- The name of a property. -/
def Property.name : Property → String
  | .defined => "defined"
  | .undefined => "undefined"
  | .none => "none"
  | .string => "string"
  | .number => "number"
  | .sequence => "sequence"
  | .mapping => "mapping"

/-- The property of a name. -/
def Property.ofName? (name : String) : Option Property := Property.all.find? (·.name == name)

/-- The operators between two expressions. -/
inductive BinaryOp
  | or
  | and
  | eq
  | ne
  | lt
  | le
  | gt
  | ge
  | isIn
  | notIn
  | add
  | sub
  | concat
  deriving DecidableEq, Repr

/-- How an operator is written. -/
def BinaryOp.text : BinaryOp → String
  | .or => "or"
  | .and => "and"
  | .eq => "=="
  | .ne => "!="
  | .lt => "<"
  | .le => "<="
  | .gt => ">"
  | .ge => ">="
  | .isIn => "in"
  | .notIn => "not in"
  | .add => "+"
  | .sub => "-"
  | .concat => "~"

/-- An expression. -/
inductive Expr
  /-- A constant. -/
  | literal (value : Literal)
  /-- `[a, b]` -/
  | list (items : List Expr)
  /-- `name` -/
  | var (name : String)
  /-- `base.name` -/
  | attr (base : Expr) (name : String)
  /-- `base[key]` -/
  | index (base key : Expr)
  /-- `input|name(args)` -/
  | filter (input : Expr) (name : String) (args : List Expr)
  /-- `input is property`, or `input is not property` -/
  | test (input : Expr) (property : Property) (negated : Bool)
  /-- `not operand` -/
  | not (operand : Expr)
  /-- `-operand` -/
  | neg (operand : Expr)
  /-- `left op right` -/
  | binary (op : BinaryOp) (left right : Expr)
  /-- `yes if condition else no` -/
  | conditional (yes condition no : Expr)
  deriving Repr, Inhabited

namespace Expr

/-- How a message refers to a constant. -/
def describeLiteral : Literal → String
  | .text s => Text.quotedString s
  | l => String.ofList (Json.valueText l.value)

/-- How a message refers to an expression: the lookup that it starts from, if it is one. -/
def describe : Expr → String
  | .var name => name
  | .attr base name => base.describe ++ "." ++ name
  | .index base key => base.describe ++ "[" ++ key.describe ++ "]"
  | .filter input _ _ => input.describe
  | .test input _ _ => input.describe
  | .literal l => describeLiteral l
  | _ => "expression"

mutual
/-- The names of the filters in an expression, an outer filter before the ones of its input. -/
def filterNames : Expr → List String
  | .literal _ | .var _ => []
  | .list items => filterNamesOf items
  | .attr base _ => filterNames base
  | .index base key => filterNames base ++ filterNames key
  | .filter input name args => name :: (filterNames input ++ filterNamesOf args)
  | .test input _ _ => filterNames input
  | .not operand => filterNames operand
  | .neg operand => filterNames operand
  | .binary _ left right => filterNames left ++ filterNames right
  | .conditional yes condition no => filterNames yes ++ filterNames condition ++ filterNames no
/-- The names of the filters in a list of expressions. -/
def filterNamesOf : List Expr → List String
  | [] => []
  | e :: rest => filterNames e ++ filterNamesOf rest
end

mutual
/-- The names of the variables in an expression. -/
def varNames : Expr → List String
  | .literal _ => []
  | .list items => varNamesOf items
  | .var name => [name]
  | .attr base _ => varNames base
  | .index base key => varNames base ++ varNames key
  | .filter input _ args => varNames input ++ varNamesOf args
  | .test input _ _ => varNames input
  | .not operand => varNames operand
  | .neg operand => varNames operand
  | .binary _ left right => varNames left ++ varNames right
  | .conditional yes condition no => varNames yes ++ varNames condition ++ varNames no
/-- The names of the variables in a list of expressions. -/
def varNamesOf : List Expr → List String
  | [] => []
  | e :: rest => varNames e ++ varNamesOf rest
end

end Expr
end ClassScribe
