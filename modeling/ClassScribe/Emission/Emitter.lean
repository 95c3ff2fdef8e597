import ClassScribe.Emission.Context
import ClassScribe.Emission.Shipped

/-! # Emitting classes

The source of a class: the chain of its kind, composed and rendered with the context of the class. -/

namespace ClassScribe

/-- The templates that end the chains of the kinds of classes. -/
structure LeafNames where
  struct : String
  enum : String
  function : String
  deriving DecidableEq, Repr

namespace LeafNames

/-- The shipped templates. -/
def standard : LeafNames := ⟨"struct_template", "enum_template", "function_template"⟩

/-- The template of a kind. -/
def forKind (n : LeafNames) : ClassKind → String
  | .struct => n.struct
  | .enum => n.enum
  | .function => n.function

end LeafNames

/-- A library of templates with the names of the leaves. -/
structure Emitter where
  library : Template.Library
  names : LeafNames

namespace Emitter
open Template (Chain Error)

/-- The shipped templates under the standard options. -/
def shipped : Except Error Emitter := do
  pure ⟨← Shipped.library .standard, .standard⟩

/-- The chain of a kind. -/
def chainFor (e : Emitter) (kind : ClassKind) : Except Error Chain :=
  e.library.chainFor (e.names.forKind kind)

/-- The source of a class by a chain. -/
def render (e : Emitter) (s : ClassSpec) (chain : Chain) : Except Error String := do
  let t ← e.library.resolve chain
  let context ← Context.ofSpec s chain.leaf
  Template.render t s.name context

/-- The source of a class by the chain of its kind. -/
def emit (e : Emitter) (s : ClassSpec) : Except Error String := do
  let chain ← e.chainFor s.kind
  e.render s chain

end Emitter
end ClassScribe
