import ClassScribe.Template.Composition

/-! # Inheritance of blocks

What a composed template is, said without a memory: the body of a block in layers is the body of the
most specific layer that defines it, with the body in the layers below put in the place of every
`super()`. -/

namespace ClassScribe.Template

/-! ### Substitution -/

mutual
/-- An element with a body in the place of every `super()`. -/
def spliceElement (body : List Element) : Element → List Element
  | .super => body
  | .choice branches otherwise =>
    [.choice (spliceBranches body branches) (splice body otherwise)]
  | .loop target items content => [.loop target items (splice body content)]
  | .text s => [.text s]
  | .output e => [.output e]
  | .assign name value => [.assign name value]
  | .slot name => [.slot name]
/-- Elements with a body in the place of every `super()`. -/
def splice (body : List Element) : List Element → List Element
  | [] => []
  | e :: rest => spliceElement body e ++ splice body rest
/-- Branches with a body in the place of every `super()`. -/
def spliceBranches (body : List Element) :
    List (Expr × List Element) → List (Expr × List Element)
  | [] => []
  | (condition, content) :: rest => (condition, splice body content) :: spliceBranches body rest
end

mutual
/-- Whether `super()` stands in an element. -/
def elementCallsSuper : Element → Bool
  | .super => true
  | .choice branches otherwise => branchesCallSuper branches || callsSuper otherwise
  | .loop _ _ content => callsSuper content
  | .text _ | .output _ | .assign _ _ | .slot _ => false
/-- Whether `super()` stands in elements. -/
def callsSuper : List Element → Bool
  | [] => false
  | e :: rest => elementCallsSuper e || callsSuper rest
/-- Whether `super()` stands in branches. -/
def branchesCallSuper : List (Expr × List Element) → Bool
  | [] => false
  | (_, content) :: rest => callsSuper content || branchesCallSuper rest
end

/-! ### Blocks in layers -/

/-- The body of a block in layers, the most specific one first. If no layer defines it, the layer
`above` has called for a definition that is not there. -/
def inheritedBody (name above : String) : List Template → Except Error (List Element)
  | [] => .error (.resolution above (some name) .noSuper)
  | t :: lower =>
    match t.block? name with
    | none => inheritedBody name above lower
    | some b =>
      if callsSuper b.body then (inheritedBody name t.name lower).map (splice · b.body)
      else .ok b.body

/-- The block of a name in layers, the most specific one first: declarations are passed over. -/
def inheritedBlock (leaf name : String) : List Template → Except Error ResolvedBlock
  | [] => .error (.missingBlock leaf name)
  | t :: lower =>
    match t.block? name with
    | none => inheritedBlock leaf name lower
    | some b =>
      if b.required then inheritedBlock leaf name lower
      else (inheritedBody name t.name (t :: lower)).map fun body => ⟨name, t.name, body⟩

section
variable {name above leaf : String} {t : Template} {b : Block}

theorem inheritedBody_of_none (h : t.block? name = none) (lower : List Template) :
    inheritedBody name above (t :: lower) = inheritedBody name above lower := by
  rw [inheritedBody, h]

theorem inheritedBody_of_some (h : t.block? name = some b) (lower : List Template) :
    inheritedBody name above (t :: lower) =
      if callsSuper b.body then (inheritedBody name t.name lower).map (splice · b.body)
      else .ok b.body := by
  rw [inheritedBody, h]

theorem inheritedBlock_of_none (h : t.block? name = none) (lower : List Template) :
    inheritedBlock leaf name (t :: lower) = inheritedBlock leaf name lower := by
  rw [inheritedBlock, h]

theorem inheritedBlock_of_required (h : t.block? name = some b) (hr : b.required = true)
    (lower : List Template) :
    inheritedBlock leaf name (t :: lower) = inheritedBlock leaf name lower := by
  rw [inheritedBlock, h]
  exact if_pos hr

theorem inheritedBlock_of_defined (h : t.block? name = some b) (hr : b.required = false)
    (lower : List Template) :
    inheritedBlock leaf name (t :: lower) =
      (inheritedBody name t.name (t :: lower)).map fun body => ⟨name, t.name, body⟩ := by
  rw [inheritedBlock, h]
  exact if_neg (by rw [hr]; decide)

end

/-- The composed template of a chain by inheritance alone. -/
def inherit (source : String → Option Template) (chain : Chain) : Except Error Resolved := do
  let layers ← collectLayers source chain [] chain.layers
  match layers.head?.bind (·.parent) with
  | some parent => .error (.resolution chain.base none (.notRoot parent))
  | none =>
    let blocks ← (blockNames layers).mapM fun name => inheritedBlock chain.leaf name layers.reverse
    pure ⟨chain, (layers.head?.map (·.layout)).getD [], blocks⟩

/-! ### Conditions on layers -/

/-- Whether putting a body together in layers, the most specific one first, comes to a `super()` that
no definition is left for. -/
def dangles (name : String) : List Template → Bool
  | [] => true
  | t :: lower =>
    match t.block? name with
    | none => dangles name lower
    | some b => callsSuper b.body && dangles name lower

/-- The layers from the most specific one on that defines a block and does not only declare it, where
`upper` are the layers above, the least specific one first. -/
structure Selects (name : String) (layers lower upper : List Template) (t : Template) (b : Block) :
    Prop where
  layers_eq : layers = lower ++ t :: upper
  block_eq : t.block? name = some b
  not_required : b.required = false
  upper_required : ∀ u ∈ upper, ∀ c, u.block? name = some c → c.required = true

/-- A block that layers declare, and that none of them defines. -/
structure OnlyDeclares (name : String) (layers : List Template) : Prop where
  declared : ∃ t ∈ layers, ∃ b, t.block? name = some b
  required : ∀ t ∈ layers, ∀ b, t.block? name = some b → b.required = true

/-- Names in the order of their first appearance in a list, each of them once. -/
structure FirstAppearances (all names : List String) : Prop where
  nodup : names.Nodup
  mem_iff : ∀ n, n ∈ names ↔ n ∈ all
  order : names.Pairwise fun m n => all.idxOf m < all.idxOf n

/-- What the composed template of a chain has to be for the layers of the chain, the base first. -/
structure Composes (chain : Chain) (layers : List Template) (r : Resolved) : Prop where
  chain_eq : r.chain = chain
  layout_eq : layers.head?.map (·.layout) = some r.layout
  names : FirstAppearances (layers.flatMap fun t => t.blocks.map (·.name)) (r.blocks.map (·.name))
  bodies : ∀ b ∈ r.blocks, ∃ lower upper t d, Selects b.name layers lower upper t d ∧
    b.definedIn = t.name ∧ inheritedBody b.name t.name (t :: lower.reverse) = .ok b.body

end ClassScribe.Template
