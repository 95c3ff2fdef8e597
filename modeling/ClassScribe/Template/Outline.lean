import ClassScribe.Template.Basic

/-! # Outlines

A template as it is written, with the body of every block in the place of the block. The layout and
the list of blocks are taken out of that. -/

namespace ClassScribe.Template

/-- A part of a template, with the bodies of blocks in their places. -/
inductive Node
  /-- Text that is copied. -/
  | text (s : String)
  /-- The printed value of an expression. -/
  | output (e : Expr)
  /-- The body that the block has in the template below. -/
  | super
  /-- The body of the first condition that holds, or else the last body. -/
  | choice (branches : List (Expr × List Node)) (otherwise : List Node)
  /-- The body once for every item of a sequence. -/
  | loop (target : String) (items : Expr) (body : List Node)
  /-- Gives a variable a value. -/
  | assign (name : String) (value : Expr)
  /-- A block with its body. -/
  | block (name : String) (required : Bool) (body : List Node)
  deriving Repr, Inhabited

namespace Node

mutual
/-- The element of a part: the body of a block leaves its slot. -/
def element : Node → Element
  | .text s => .text s
  | .output e => .output e
  | .super => .super
  | .choice branches otherwise => .choice (branchElements branches) (elements otherwise)
  | .loop target items body => .loop target items (elements body)
  | .assign name value => .assign name value
  | .block name _ _ => .slot name
/-- The elements of parts. -/
def elements : List Node → List Element
  | [] => []
  | n :: rest => n.element :: elements rest
/-- The branches of parts. -/
def branchElements : List (Expr × List Node) → List (Expr × List Element)
  | [] => []
  | (condition, body) :: rest => (condition, elements body) :: branchElements rest
end

theorem elements_append (ns ms : List Node) :
    elements (ns ++ ms) = elements ns ++ elements ms := by
  induction ns with
  | nil => rfl
  | cons n ns ih =>
      rw [List.cons_append, elements, ih, elements]
      rfl

theorem branchElements_append (bs cs : List (Expr × List Node)) :
    branchElements (bs ++ cs) = branchElements bs ++ branchElements cs := by
  induction bs with
  | nil => rfl
  | cons b bs ih =>
      rw [List.cons_append, branchElements, ih, branchElements]
      rfl

mutual
/-- The blocks in a part, in the order of their openings. -/
def blocks : Node → List Block
  | .block name required body => ⟨name, required, elements body⟩ :: blocksOf body
  | .choice branches otherwise => branchBlocks branches ++ blocksOf otherwise
  | .loop _ _ body => blocksOf body
  | .text _ | .output _ | .super | .assign _ _ => []
/-- The blocks in parts. -/
def blocksOf : List Node → List Block
  | [] => []
  | n :: rest => n.blocks ++ blocksOf rest
/-- The blocks in branches. -/
def branchBlocks : List (Expr × List Node) → List Block
  | [] => []
  | (_, body) :: rest => blocksOf body ++ branchBlocks rest
end

theorem blocksOf_append (ns ms : List Node) :
    blocksOf (ns ++ ms) = blocksOf ns ++ blocksOf ms := by
  induction ns with
  | nil => rfl
  | cons n ns ih => rw [List.cons_append, blocksOf, ih, blocksOf, List.append_assoc]

theorem branchBlocks_append (bs cs : List (Expr × List Node)) :
    branchBlocks (bs ++ cs) = branchBlocks bs ++ branchBlocks cs := by
  induction bs with
  | nil => rfl
  | cons b bs ih => rw [List.cons_append, branchBlocks, ih, branchBlocks, List.append_assoc]

mutual
/-- Whether every `super()` stands in a block, where `inside` tells whether the part does. -/
def placesSuper (inside : Bool) : Node → Bool
  | .super => inside
  | .block _ _ body => allPlaceSuper true body
  | .choice branches otherwise => branchesPlaceSuper inside branches && allPlaceSuper inside otherwise
  | .loop _ _ body => allPlaceSuper inside body
  | .text _ | .output _ | .assign _ _ => true
/-- Whether every `super()` in parts stands in a block. -/
def allPlaceSuper (inside : Bool) : List Node → Bool
  | [] => true
  | n :: rest => n.placesSuper inside && allPlaceSuper inside rest
/-- Whether every `super()` in branches stands in a block. -/
def branchesPlaceSuper (inside : Bool) : List (Expr × List Node) → Bool
  | [] => true
  | (_, body) :: rest => allPlaceSuper inside body && branchesPlaceSuper inside rest
end

end Node

/-- The template of an outline. -/
def ofOutline (name : String) (parent : Option String) (nodes : List Node) : Template :=
  ⟨name, parent, Node.elements nodes, Node.blocksOf nodes⟩

end ClassScribe.Template
