import ClassScribe.Template.Composition

/-! # Slots

Which blocks have their places in elements, and which blocks of a composed template stand in the body
of another one. -/

namespace ClassScribe.Template

mutual
/-- The blocks whose slots stand in an element. -/
def elementSlots : Element → List String
  | .slot name => [name]
  | .choice branches otherwise => branchSlots branches ++ slots otherwise
  | .loop _ _ body => slots body
  | .text _ | .output _ | .super | .assign _ _ => []
/-- The blocks whose slots stand in elements. -/
def slots : List Element → List String
  | [] => []
  | e :: rest => elementSlots e ++ slots rest
/-- The blocks whose slots stand in the bodies of branches. -/
def branchSlots : List (Expr × List Element) → List String
  | [] => []
  | (_, body) :: rest => slots body ++ branchSlots rest
end

/-- Blocks that grow out of slots: in the order in which they are opened, the block of each slot comes
first, then what grows out of the slots in its body, then what grows out of the further slots. -/
inductive Forest : List String → List Block → Prop
  | nil : Forest [] []
  | block {b : Block} {names : List String} {inner further : List Block} :
      Forest (slots b.body) inner → Forest names further → Forest (b.name :: names) (b :: (inner ++ further))

/-- Whether a slot of a block stands in the body of another one. -/
def Resolved.Nests (t : Resolved) (outer inner : String) : Prop :=
  ∃ b, t.block? outer = some b ∧ inner ∈ slots b.body

end ClassScribe.Template
