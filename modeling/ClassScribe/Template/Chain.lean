import ClassScribe.Template.Basic
import ClassScribe.Template.Error

/-! # Chains

The templates that are put together for a class: a root and the templates that override its blocks,
the most specific one last. -/

namespace ClassScribe.Template

/-- A root template and its overriding templates, by name. -/
structure Chain where
  base : String
  overrides : List String
  deriving DecidableEq, Repr

namespace Chain

/-- All layers, the base first. -/
def layers (c : Chain) : List String := c.base :: c.overrides

/-- The most specific layer. -/
def leaf (c : Chain) : String := c.overrides.getLast?.getD c.base

/-- The layers in a row. -/
def display (c : Chain) : String := showLayers c.layers

end Chain
end ClassScribe.Template
