import ClassScribe.Template.Composition

/-! # Rendering

The text of a composed template for a context. Variables live in frames: an assignment changes the
innermost frame, and loops and blocks work on frames of their own, so that nothing leaks out of
them. A block is not rendered inside itself, which is why rendering ends: every block that is
entered is one less that can be. -/

namespace ClassScribe.Template

/-! ### Variables -/

/-- The variables of a loop round, of a block, or of the whole context. -/
abbrev Frame := List (String × Value)

/-- The frames that can be seen, the innermost one apart; the context is the last of the others. -/
structure Scope where
  frame : Frame
  outer : List Frame
  deriving Repr

namespace Scope

/-- The value of a variable: the innermost frame that has it counts. -/
def lookup (s : Scope) : Lookup := fun name => (s.frame :: s.outer).findSome? (Value.field? · name)

/-- A new innermost frame. -/
def enter (s : Scope) (frame : Frame) : Scope := ⟨frame, s.frame :: s.outer⟩

end Scope

/-- What a loop round knows about itself. -/
def loopInfo (index length : Nat) : Value :=
  .mapping (Value.ofFields
    [("index", .int (index + 1)), ("index0", .int index), ("first", .bool (index == 0)),
      ("last", .bool (index + 1 == length)), ("length", .int length)])

/-- The frame of a loop round: the item and the record `loop`. -/
def loopFrame (target : String) (item : Value) (index length : Nat) : Frame :=
  Value.ofFields [(target, item), ("loop", loopInfo index length)]

/-! ### Elements -/

/-- What rendering an element needs to know: how errors name their place, and what to do at the slot
of a block. -/
structure Site where
  className : String
  template : String
  block : Option String
  slot : Scope → String → Except Error String

namespace Site

/-- An error at this place. -/
def fail {α : Type} (site : Site) (fault : RenderFault) : Except Error α :=
  .error (.render site.className site.template site.block fault)

/-- The value of an expression. A halt has no place. -/
def eval (site : Site) (scope : Scope) (e : Expr) : Except Error Value :=
  match e.eval scope.lookup with
  | .ok v => .ok v
  | .error (.error cause) => site.fail (.eval cause)
  | .error (.halt cause) => .error (.halted cause)

/-- The printed value of an expression. -/
def print (site : Site) (scope : Scope) (e : Expr) : Except Error String := do
  let v ← site.eval scope e
  match v.display? with
  | some text => .ok text
  | none => site.fail (.print e.describe v.kind)

/-- The items that a loop goes over. -/
def items (site : Site) (scope : Scope) (e : Expr) : Except Error (List Value) := do
  match ← site.eval scope e with
  | .sequence items => .ok items
  | v => site.fail (.iterate e.describe v.kind)

end Site

/-- The texts of the rounds of a loop from an index on. -/
def renderRounds (round : Nat → Value → Except Error String) (index : Nat) :
    List Value → Except Error String
  | [] => .ok ""
  | item :: rest => do
    let text ← round index item
    let more ← renderRounds round (index + 1) rest
    pure (text ++ more)

mutual
/-- The text of an element, and the innermost frame after it. -/
def renderElement (site : Site) (scope : Scope) : Element → Except Error (String × Frame)
  | .text s => .ok (s, scope.frame)
  | .output e => do
    let text ← site.print scope e
    pure (text, scope.frame)
  | .super => .error (.resolution site.template site.block .unexpandedSuper)
  | .choice branches otherwise => do
    match ← renderBranches site scope branches with
    | some result => pure result
    | none => renderElements site scope otherwise
  | .loop target items body => do
    let items ← site.items scope items
    let text ← renderRounds (fun index item => do
      let result ← renderElements site
        (scope.enter (loopFrame target item index items.length)) body
      pure result.1) 0 items
    pure (text, scope.frame)
  | .assign name value => do
    let v ← site.eval scope value
    pure ("", Value.setField name v scope.frame)
  | .slot name => do
    let text ← site.slot scope name
    pure (text, scope.frame)
/-- The text of elements in a row, and the innermost frame after them. -/
def renderElements (site : Site) (scope : Scope) : List Element → Except Error (String × Frame)
  | [] => .ok ("", scope.frame)
  | e :: rest => do
    let (text, frame) ← renderElement site scope e
    let (more, frame) ← renderElements site { scope with frame := frame } rest
    pure (text ++ more, frame)
/-- The text of the first body whose condition holds, if there is one. -/
def renderBranches (site : Site) (scope : Scope) :
    List (Expr × List Element) → Except Error (Option (String × Frame))
  | [] => .ok none
  | (condition, body) :: rest => do
    let v ← site.eval scope condition
    if v.truthy then
      let result ← renderElements site scope body
      pure (some result)
    else renderBranches site scope rest
end

/-! ### Blocks -/

/-- The blocks that are not being rendered. -/
def idle (t : Resolved) (active : List String) : List ResolvedBlock :=
  t.blocks.filter fun b => !active.contains b.name

theorem idle_cons_lt {t : Resolved} {active : List String} {name : String} {b : ResolvedBlock}
    (hb : t.block? name = some b) (hn : active.contains name = false) :
    (idle t (name :: active)).length < (idle t active).length := by
  obtain rfl : b.name = name := by simpa using List.find?_some hb
  exact length_filter_cons_lt (List.mem_of_find?_eq_some hb) hn

/-- The text of the slot of a block, while the blocks `active` are being rendered. The slot of a block
that the template does not have is empty. -/
def renderSlot (t : Resolved) (className : String) (active : List String) (scope : Scope)
    (name : String) : Except Error String :=
  if _hn : active.contains name = true then
    .error (.resolution t.name (some name) .recursiveBlock)
  else
    match _hb : t.block? name with
    | none => .ok ""
    | some b => do
      let result ← renderElements
        ⟨className, t.name, some name, fun scope inner =>
          renderSlot t className (name :: active) scope inner⟩
        (scope.enter []) b.body
      pure result.1
termination_by (idle t active).length
decreasing_by exact idle_cons_lt _hb (by simpa using _hn)

/-- The text of a composed template for a class and a context. -/
def render (t : Resolved) (className : String) (context : Frame) : Except Error String := do
  let result ← renderElements ⟨className, t.name, none, renderSlot t className []⟩
    ⟨[], [context]⟩ t.layout
  pure result.1

end ClassScribe.Template
