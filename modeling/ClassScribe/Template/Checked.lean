import ClassScribe.Template.Parser

/-! # Checked elements

What the parser looks at before a template is used: the filters of every expression, and where `super()`
stands. The slots belong to it, since a slot comes from a block that is listed. -/

namespace ClassScribe.Template

/-- An expression whose filters are all known. -/
def KnowsFilters (e : Expr) : Prop := ∀ name ∈ e.filterNames, Filter.isKnown name = true

mutual
/-- An element with known filters and slots of the given blocks, and with a `super()` only if it stands
in a block. -/
def ElementChecked (names : List String) (inside : Bool) : Element → Prop
  | .text _ => True
  | .output e => KnowsFilters e
  | .super => inside = true
  | .choice branches otherwise => BranchesChecked names inside branches ∧ Checked names inside otherwise
  | .loop _ items body => KnowsFilters items ∧ Checked names inside body
  | .assign _ value => KnowsFilters value
  | .slot name => name ∈ names
/-- Elements that are checked. -/
def Checked (names : List String) (inside : Bool) : List Element → Prop
  | [] => True
  | e :: rest => ElementChecked names inside e ∧ Checked names inside rest
/-- Branches whose conditions have known filters, and whose bodies are checked. -/
def BranchesChecked (names : List String) (inside : Bool) : List (Expr × List Element) → Prop
  | [] => True
  | (condition, body) :: rest =>
    KnowsFilters condition ∧ Checked names inside body ∧ BranchesChecked names inside rest
end

/-- A source of templates that have all been parsed. -/
def AllParsed (source : String → Option Template) : Prop :=
  ∀ n t, source n = some t → ∃ options name content, parse options name content = .ok t

/-- Whether a fault says that a filter or a test is not known. -/
def RenderFault.NamesUnknown (fault : RenderFault) : Prop :=
  ∃ name, fault.message = "unknown filter `" ++ name ++ "`" ∨
    fault.message = "unknown test `" ++ name ++ "`"

end ClassScribe.Template
