import ClassScribe.Expr.Basic

/-! # Templates

The tree of a template: texts, outputs and statements, with a slot where each block stands. The
bodies of the blocks are kept apart from the layout, so that another template can replace them. -/

namespace ClassScribe

/-- A part of a template. -/
inductive Element
  /-- Text that is copied. -/
  | text (s : String)
  /-- The printed value of an expression. -/
  | output (e : Expr)
  /-- The body that the block has in the template below. -/
  | super
  /-- The body of the first condition that holds, or else the last body. -/
  | choice (branches : List (Expr × List Element)) (otherwise : List Element)
  /-- The body once for every item of a sequence. -/
  | loop (target : String) (items : Expr) (body : List Element)
  /-- Gives a variable a value. -/
  | assign (name : String) (value : Expr)
  /-- The place of a block. -/
  | slot (name : String)
  deriving Repr, Inhabited

/-- A block that a template defines. A required block is a declaration whose body is not used. -/
structure Block where
  name : String
  required : Bool
  body : List Element
  deriving Repr, Inhabited

/-- A template, with its blocks in the order of their opening tags. -/
structure Template where
  name : String
  parent : Option String
  layout : List Element
  blocks : List Block
  deriving Repr, Inhabited

namespace Template

/-- The block of a name. -/
def block? (t : Template) (name : String) : Option Block := t.blocks.find? (·.name == name)

/-- Whether a template extends no other one. -/
def isRoot (t : Template) : Bool := t.parent.isNone

/-! ### Names that have been met -/

/-- Of the items whose names are not in a list, there are fewer once the name of one of them is in the
list. -/
theorem length_filter_cons_lt {α : Type} {name : α → String} {items : List α} {names : List String}
    {a : α} (ha : a ∈ items) (hn : names.contains (name a) = false) :
    (items.filter fun b => !(name a :: names).contains (name b)).length <
      (items.filter fun b => !names.contains (name b)).length := by
  have hsub : (items.filter fun b => !(name a :: names).contains (name b)) =
      (items.filter fun b => !names.contains (name b)).filter fun b => name b != name a := by
    rw [List.filter_filter]
    congr 1
    funext b
    by_cases hb : name b = name a <;> simp [hb]
  rw [hsub]
  refine Nat.lt_of_le_of_ne (List.length_filter_le _ _) fun h => ?_
  have hmem : a ∈ items.filter fun b => !names.contains (name b) := by
    rw [List.mem_filter, hn]
    exact ⟨ha, rfl⟩
  have := List.length_filter_eq_length_iff.1 h a hmem
  simp at this

end Template
end ClassScribe
