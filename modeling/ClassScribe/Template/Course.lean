import ClassScribe.Expr.Stopping
import ClassScribe.Template.Rendering

/-! # The course of a rendering

Where a rendering can be: which blocks are being rendered, which variables can be seen, and which
elements come next. A step passes over the first element once that has its text, or goes into a body of
it. A rendering fails where it cannot go on: at an element that fails by itself. -/

namespace ClassScribe.Template

/-- A stage of a rendering: the blocks that are being rendered, the innermost one first, the variables,
and what is left of the innermost body. -/
structure Stage where
  active : List String
  scope : Scope
  elements : List Element

/-- The place of elements in the body of the innermost block. -/
def Resolved.site (r : Resolved) (className : String) (active : List String) : Site :=
  ⟨className, r.name, active.head?, renderSlot r className active⟩

/-- The stage that rendering starts with. -/
def Resolved.start (r : Resolved) (context : Frame) : Stage := ⟨[], ⟨[], [context]⟩, r.layout⟩

/-- What becomes of the elements of a stage. -/
def Stage.outcome (s : Stage) (r : Resolved) (className : String) : Except Error (String × Frame) :=
  renderElements (r.site className s.active) s.scope s.elements

/-- Whether the conditions of branches do not hold. -/
def Site.Rejects (site : Site) (scope : Scope) (branches : List (Expr × List Element)) : Prop :=
  ∀ branch ∈ branches, ∃ v, site.eval scope branch.1 = .ok v ∧ v.truthy = false

/-- Whether the rounds of a loop before one of them have their texts. -/
def Site.Completes (site : Site) (scope : Scope) (target : String) (values : List Value)
    (body : List Element) (k : Nat) : Prop :=
  ∀ j item, j < k → values[j]? = some item →
    ∃ result, renderElements site (scope.enter (loopFrame target item j values.length)) body =
      .ok result

/-- The steps of a rendering. -/
inductive Resolved.Step (r : Resolved) (className : String) : Stage → Stage → Prop
  /-- Behind an element that has its text. -/
  | next {active : List String} {scope : Scope} {e : Element} {rest : List Element} {text : String}
      {frame : Frame} :
      renderElement (r.site className active) scope e = .ok (text, frame) →
      Step r className ⟨active, scope, e :: rest⟩ ⟨active, { scope with frame := frame }, rest⟩
  /-- Into the body of the first condition that holds. -/
  | branch {active : List String} {scope : Scope} {skipped more : List (Expr × List Element)}
      {condition : Expr} {body otherwise rest : List Element} {v : Value} :
      (r.site className active).Rejects scope skipped →
      (r.site className active).eval scope condition = .ok v → v.truthy = true →
      Step r className ⟨active, scope, .choice (skipped ++ (condition, body) :: more) otherwise :: rest⟩
        ⟨active, scope, body⟩
  /-- Into the last body of a choice, if no condition holds. -/
  | otherwise {active : List String} {scope : Scope} {branches : List (Expr × List Element)}
      {otherwise rest : List Element} :
      (r.site className active).Rejects scope branches →
      Step r className ⟨active, scope, .choice branches otherwise :: rest⟩ ⟨active, scope, otherwise⟩
  /-- Into a round of a loop. -/
  | round {active : List String} {scope : Scope} {target : String} {items : Expr}
      {body rest : List Element} {values : List Value} {k : Nat} {item : Value} :
      (r.site className active).items scope items = .ok values → values[k]? = some item →
      (r.site className active).Completes scope target values body k →
      Step r className ⟨active, scope, .loop target items body :: rest⟩
        ⟨active, scope.enter (loopFrame target item k values.length), body⟩
  /-- Into a block that is not being rendered. -/
  | block {active : List String} {scope : Scope} {name : String} {b : ResolvedBlock}
      {rest : List Element} :
      name ∉ active → r.block? name = some b →
      Step r className ⟨active, scope, .slot name :: rest⟩ ⟨name :: active, scope.enter [], b.body⟩

/-- The stages at which a rendering cannot go on, with the errors. -/
inductive Resolved.Stops (r : Resolved) (className : String) : Stage → Error → Prop
  /-- At an output whose value cannot be printed. -/
  | output {active : List String} {scope : Scope} {e : Expr} {rest : List Element} {err : Error} :
      (r.site className active).print scope e = .error err →
      Stops r className ⟨active, scope, .output e :: rest⟩ err
  /-- At a `super()` that has not been replaced. -/
  | super {active : List String} {scope : Scope} {rest : List Element} :
      Stops r className ⟨active, scope, .super :: rest⟩
        (.resolution r.name active.head? .unexpandedSuper)
  /-- At a condition without a value. -/
  | condition {active : List String} {scope : Scope} {skipped more : List (Expr × List Element)}
      {condition : Expr} {body otherwise rest : List Element} {err : Error} :
      (r.site className active).Rejects scope skipped →
      (r.site className active).eval scope condition = .error err →
      Stops r className ⟨active, scope, .choice (skipped ++ (condition, body) :: more) otherwise :: rest⟩
        err
  /-- At a loop over what is no sequence. -/
  | items {active : List String} {scope : Scope} {target : String} {items : Expr}
      {body rest : List Element} {err : Error} :
      (r.site className active).items scope items = .error err →
      Stops r className ⟨active, scope, .loop target items body :: rest⟩ err
  /-- At an assignment without a value. -/
  | assign {active : List String} {scope : Scope} {name : String} {value : Expr} {rest : List Element}
      {err : Error} :
      (r.site className active).eval scope value = .error err →
      Stops r className ⟨active, scope, .assign name value :: rest⟩ err
  /-- At the slot of a block that is being rendered. -/
  | slot {active : List String} {scope : Scope} {name : String} {rest : List Element} :
      name ∈ active →
      Stops r className ⟨active, scope, .slot name :: rest⟩
        (.resolution r.name (some name) .recursiveBlock)

/-- Whether the first element of a stage may ask for the value of an expression. -/
inductive Stage.Asks : Stage → Expr → Prop
  | output {active : List String} {scope : Scope} {e : Expr} {rest : List Element} :
      Asks ⟨active, scope, .output e :: rest⟩ e
  | condition {active : List String} {scope : Scope} {branches : List (Expr × List Element)}
      {branch : Expr × List Element} {otherwise rest : List Element} :
      branch ∈ branches → Asks ⟨active, scope, .choice branches otherwise :: rest⟩ branch.1
  | items {active : List String} {scope : Scope} {target : String} {items : Expr}
      {body rest : List Element} : Asks ⟨active, scope, .loop target items body :: rest⟩ items
  | assign {active : List String} {scope : Scope} {name : String} {value : Expr} {rest : List Element} :
      Asks ⟨active, scope, .assign name value :: rest⟩ value

/-- Whether the first element of a stage asks for an expression a part of which overflows. -/
def Stage.Overflows (s : Stage) (halt : Halt) : Prop :=
  ∃ e, s.Asks e ∧ ∃ p ∈ e.parts, p.Overflows s.scope.lookup halt

/-! ### Rendering to a depth -/

/-- The text of the slot of a block, where no more than some blocks can be entered; what would stand
deeper is given. -/
def renderSlotWithin (r : Resolved) (className : String) (deeper : Except Error String) :
    Nat → List String → Scope → String → Except Error String
  | 0, _, _, _ => deeper
  | depth + 1, active, scope, name =>
    if active.contains name = true then .error (.resolution r.name (some name) .recursiveBlock)
    else
      match r.block? name with
      | none => .ok ""
      | some b => do
        let result ← renderElements
          ⟨className, r.name, some name, renderSlotWithin r className deeper depth (name :: active)⟩
          (scope.enter []) b.body
        pure result.1

/-- The text of a composed template for a class and a context, up to a depth of slots. -/
def renderWithin (r : Resolved) (className : String) (deeper : Except Error String) (depth : Nat)
    (context : Frame) : Except Error String := do
  let result ← renderElements
    ⟨className, r.name, none, renderSlotWithin r className deeper depth []⟩ ⟨[], [context]⟩ r.layout
  pure result.1

end ClassScribe.Template
