import ClassScribe.Template.Inheritance

/-! # One more layer

A template on top of a chain whose blocks only call for what is below them. -/

namespace ClassScribe.Template

/-- A source with one more template. -/
def withTemplate (source : String → Option Template) (t : Template) : String → Option Template :=
  fun name => if name = t.name then some t else source name

/-- A chain with one more layer, the most specific one. -/
def Chain.extend (chain : Chain) (name : String) : Chain := ⟨chain.base, chain.overrides ++ [name]⟩

/-- The templates of a chain, the base first. -/
def Chain.templates (chain : Chain) (source : String → Option Template) : List Template :=
  chain.layers.filterMap source

/-- The block that a `super()` above templates calls for: the most specific one of that name, whether it is
required or not. -/
def calledBlock? (name : String) (layers : List Template) : Option Block :=
  layers.reverse.findSome? (·.block? name)

/-- A template with a new name, whose blocks are blocks of a composed template, and only call for what is
below them. -/
structure OnlyCalls (source : String → Option Template) (r : Resolved) (t : Template) : Prop where
  fresh : ∀ name u, source name = some u → name ≠ t.name ∧ u.name ≠ t.name
  known : ∀ b ∈ t.blocks, ∃ c, r.block? b.name = some c
  calls : ∀ b ∈ t.blocks, b.required = false ∧ b.body = [.super]

/-- An error of a composed template as the one of a template of another name. -/
def Error.within (name : String) : Error → Error
  | .missingBlock _ block => .missingBlock name block
  | .resolution _ block fault => .resolution name block fault
  | .render className _ block fault => .render className name block fault
  | e => e

end ClassScribe.Template
