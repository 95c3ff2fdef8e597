import ClassScribe.Template.Composition

/-! # Variables of templates

The variables that a template names: in outputs, in conditions, in what loops go over and in assigned values.
The target of a loop and the name of an assignment are not among them: they are given a value there and not
looked up. -/

namespace ClassScribe.Template

mutual
/-- The names of the variables in an element. -/
def elementVariables : Element → List String
  | .text _ | .super | .slot _ => []
  | .output e => e.varNames
  | .choice branches otherwise => branchVariables branches ++ variablesOf otherwise
  | .loop _ items body => items.varNames ++ variablesOf body
  | .assign _ value => value.varNames
/-- The names of the variables in elements. -/
def variablesOf : List Element → List String
  | [] => []
  | e :: rest => elementVariables e ++ variablesOf rest
/-- The names of the variables in the conditions and bodies of branches. -/
def branchVariables : List (Expr × List Element) → List String
  | [] => []
  | (condition, body) :: rest => condition.varNames ++ variablesOf body ++ branchVariables rest
end

/-- The names of the variables in a composed template: in its layout and in the bodies of its blocks. -/
def Resolved.varNames (r : Resolved) : List String :=
  variablesOf r.layout ++ r.blocks.flatMap fun b => variablesOf b.body

end ClassScribe.Template
