import ClassScribe.Template.Library

/-! # Checks on load

A template may not nest its statements too deep, and every template that no other one extends has
to end a chain that can be composed. -/

namespace ClassScribe.Template

/-- The greatest number of conditionals and loops that may stand inside each other. -/
def maxNesting : Nat := 10

mutual
/-- How deep an element nests conditionals and loops. -/
def nestingOf : Element → Nat
  | .choice branches otherwise => 1 + max (nestingOfBranches branches) (nesting otherwise)
  | .loop _ _ body => 1 + nesting body
  | _ => 0
/-- How deep elements nest conditionals and loops. -/
def nesting : List Element → Nat
  | [] => 0
  | e :: rest => max (nestingOf e) (nesting rest)
/-- How deep the bodies of branches nest conditionals and loops. -/
def nestingOfBranches : List (Expr × List Element) → Nat
  | [] => 0
  | (_, body) :: rest => max (nesting body) (nestingOfBranches rest)
end

/-- Checks the nesting of the layout and of every block on its own. -/
def validate (t : Template) : Except Error Unit :=
  if maxNesting < nesting t.layout || t.blocks.any (maxNesting < nesting ·.body) then
    .error (.nestedTooDeep t.name maxNesting)
  else .ok ()

/-- Checks the source of a template. -/
def validateSource (name content : String) : Except Error Unit := do
  let t ← parse .standard name content
  validate t

/-- Checks all templates and composes the chains of those that no other one extends. -/
def Library.validate (l : Library) : Except Error (List Chain) := do
  l.templates.forM Template.validate
  l.leaves.mapM fun leaf => do
    let chain ← l.chainFor leaf
    let _ ← l.resolve chain
    pure chain

end ClassScribe.Template
