import ClassScribe.Template.Chain

/-! # Composition

The layers of a chain put together: the layout of the base, and one body for every block. The body
is the most specific definition that is not just a declaration, with every `super()` replaced by
the body of the next definition below it. The body of a definition is put together once and then
remembered. -/

namespace ClassScribe.Template

/-- A block of a composed template, and the layer that its body was taken from. -/
structure ResolvedBlock where
  name : String
  definedIn : String
  body : List Element
  deriving Repr

/-- A composed template. -/
structure Resolved where
  chain : Chain
  layout : List Element
  blocks : List ResolvedBlock
  deriving Repr

/-- The name of a composed template: the one of its most specific layer. -/
def Resolved.name (t : Resolved) : String := t.chain.leaf

/-- The block of a name. -/
def Resolved.block? (t : Resolved) (name : String) : Option ResolvedBlock :=
  t.blocks.find? (·.name == name)

/-! ### Bodies -/

section
variable {m : Type → Type} [Monad m]

mutual
/-- An element with every `super()` in it replaced. -/
def expandElement (below : m (List Element)) : Element → m (List Element)
  | .super => below
  | .choice branches otherwise => do
    let branches ← expandBranches below branches
    let otherwise ← expand below otherwise
    pure [.choice branches otherwise]
  | .loop target items body => do
    let body ← expand below body
    pure [.loop target items body]
  | .text s => pure [.text s]
  | .output e => pure [.output e]
  | .assign name value => pure [.assign name value]
  | .slot name => pure [.slot name]
/-- Elements with every `super()` in them replaced. -/
def expand (below : m (List Element)) : List Element → m (List Element)
  | [] => pure []
  | e :: rest => do
    let e ← expandElement below e
    let rest ← expand below rest
    pure (e ++ rest)
/-- Branches with every `super()` in their bodies replaced. -/
def expandBranches (below : m (List Element)) :
    List (Expr × List Element) → m (List (Expr × List Element))
  | [] => pure []
  | (condition, body) :: rest => do
    let body ← expand below body
    let rest ← expandBranches below rest
    pure ((condition, body) :: rest)
end

end

/-- A definition of a block in a layer, with the number of layers below that. -/
structure Definition where
  position : Nat
  layer : String
  block : Block
  deriving Repr

/-- The definitions of a block in layers, the most specific layer first. -/
def definitions (name : String) : List Template → List Definition
  | [] => []
  | t :: lower =>
    match t.block? name with
    | some b => ⟨lower.length, t.name, b⟩ :: definitions name lower
    | none => definitions name lower

/-- The fault of a definition that is the last one and calls for another below it. -/
def Definition.noSuper (d : Definition) : Error :=
  .resolution d.layer (some d.block.name) .noSuper

/-! ### Remembered bodies -/

/-- The bodies that have been put together, by the positions of their layers and the names of their
blocks. -/
abbrev Memory := List ((Nat × String) × List Element)

/-- A computation that remembers bodies. -/
abbrev Remembering (α : Type) := StateT Memory (Except Error) α

/-- A body that is remembered, or else is put together and remembered from then on. -/
def remember (key : Nat × String) (body : Remembering (List Element)) :
    Remembering (List Element) := do
  match (← get).lookup key with
  | some found => pure found
  | none => do
    let made ← body
    modify ((key, made) :: ·)
    pure made

/-- The body of a definition above others. -/
def bodyOf (d : Definition) : List Definition → Remembering (List Element)
  | [] => remember (d.position, d.block.name) (expand (throw d.noSuper) d.block.body)
  | next :: more => remember (d.position, d.block.name) (expand (bodyOf next more) d.block.body)

/-- The block of a name: the most specific definition that is not just a declaration. -/
def resolveBlock (leaf : String) (layers : List Template) (name : String) :
    Remembering ResolvedBlock :=
  match (definitions name layers.reverse).dropWhile (·.block.required) with
  | [] => throw (.missingBlock leaf name)
  | d :: below => do
    let body ← bodyOf d below
    pure ⟨name, d.layer, body⟩

/-- The names of the blocks of all layers in the order of their first appearance. -/
def blockNames (layers : List Template) : List String :=
  (layers.flatMap fun t => t.blocks.map (·.name)).eraseDups

/-! ### Layers -/

/-- The templates of layers, each of which has to be there, and only once. -/
def collectLayers (source : String → Option Template) (chain : Chain) (seen : List Template) :
    List String → Except Error (List Template)
  | [] => .ok []
  | name :: rest =>
    if seen.any (·.name == name) then .error (.resolution name none (.cycle chain.layers))
    else
      match source name with
      | none => .error (.resolution name none .unknownTemplate)
      | some t => do
        let more ← collectLayers source chain (t :: seen) rest
        pure (t :: more)

/-- The composed template of a chain. -/
def compose (source : String → Option Template) (chain : Chain) : Except Error Resolved := do
  let layers ← collectLayers source chain [] chain.layers
  match layers.head?.bind (·.parent) with
  | some parent => .error (.resolution chain.base none (.notRoot parent))
  | none =>
    let (blocks, _) ← ((blockNames layers).mapM (resolveBlock chain.leaf layers)).run []
    pure ⟨chain, (layers.head?.map (·.layout)).getD [], blocks⟩

end ClassScribe.Template
