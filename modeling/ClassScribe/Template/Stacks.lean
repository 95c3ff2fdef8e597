import ClassScribe.Template.Course

/-! # Rendering on stacks

The same rendering as a machine that changes one state in place: the frames and the blocks that are open are
stacks, and texts are written behind each other. A round of a loop and a block put a frame on the stack and
take one off when they are done, also when they are done because of an error. -/

namespace ClassScribe.Template

/-- The frames without the innermost one. The last one stays. -/
def Scope.leave : Scope → Scope
  | ⟨_, frame :: outer⟩ => ⟨frame, outer⟩
  | ⟨frame, []⟩ => ⟨frame, []⟩

/-- What a rendering changes: the frames, the blocks that are open, the innermost one first, and what has been
written. -/
structure Stacks where
  scope : Scope
  active : List String
  output : String

namespace Stacks

/-- The stacks that a rendering begins with. -/
def start (context : Frame) : Stacks := ⟨⟨[], [context]⟩, [], ""⟩

/-- Writes a text. -/
def write (s : Stacks) (text : String) : Stacks := { s with output := s.output ++ text }

/-- Gives a variable of the innermost frame a value. -/
def assign (s : Stacks) (name : String) (v : Value) : Stacks :=
  { s with scope := { s.scope with frame := Value.setField name v s.scope.frame } }

/-- Puts a frame on the stack. -/
def pushFrame (s : Stacks) (frame : Frame) : Stacks := { s with scope := s.scope.enter frame }

/-- Takes a frame off the stack. -/
def popFrame (s : Stacks) : Stacks := { s with scope := s.scope.leave }

/-- Opens a block. -/
def openBlock (s : Stacks) (name : String) : Stacks := { s with active := name :: s.active }

/-- Closes the block that was opened last. -/
def closeBlock (s : Stacks) : Stacks := { s with active := s.active.tail }

end Stacks

/-! ### The machine -/

/-- A computation on stacks. Where it fails, the stacks stay as they are at that moment. -/
abbrev Rendering (α : Type) := ExceptT Error (StateM Stacks) α

/-- How a computation ends, and the stacks that it leaves. -/
def Rendering.runFrom {α : Type} (m : Rendering α) (s : Stacks) : Except Error α × Stacks := m.run.run s

/-- Runs a computation with a frame of its own. -/
def onFrame (frame : Frame) (body : Rendering Unit) : Rendering Unit := do
  modify (·.pushFrame frame)
  try body finally modify (·.popFrame)

/-- Runs a computation inside a block. -/
def inBlock (name : String) (body : Rendering Unit) : Rendering Unit := do
  modify (·.openBlock name)
  try onFrame [] body finally modify (·.closeBlock)

/-- Runs the rounds of a loop from an index on. -/
def performRounds (round : Nat → Value → Rendering Unit) (index : Nat) : List Value → Rendering Unit
  | [] => pure ()
  | item :: rest => do
    round index item
    performRounds round (index + 1) rest

section
variable (r : Resolved) (className : String)

/-- Looks at the variables, from the block that is open. -/
def consult {α : Type} (question : Site → Scope → Except Error α) : Rendering α := do
  let s ← get
  match question (r.site className s.active) s.scope with
  | .ok a => pure a
  | .error e => throw e

mutual
/-- Renders an element; what is done at a slot is given. -/
def performElement (slot : String → Rendering Unit) : Element → Rendering Unit
  | .text text => modify (·.write text)
  | .output e => do
    let text ← consult r className fun site scope => site.print scope e
    modify (·.write text)
  | .super => do
    let s ← get
    throw (.resolution r.name s.active.head? .unexpandedSuper)
  | .choice branches otherwise => do
    if ← performBranches slot branches then pure () else performElements slot otherwise
  | .loop target items body => do
    let values ← consult r className fun site scope => site.items scope items
    performRounds (fun index item =>
      onFrame (loopFrame target item index values.length) (performElements slot body)) 0 values
  | .assign name value => do
    let v ← consult r className fun site scope => site.eval scope value
    modify (·.assign name v)
  | .slot name => slot name
/-- Renders elements one after the other. -/
def performElements (slot : String → Rendering Unit) : List Element → Rendering Unit
  | [] => pure ()
  | e :: rest => do
    performElement slot e
    performElements slot rest
/-- Renders the first body whose condition holds, and tells whether there is one. -/
def performBranches (slot : String → Rendering Unit) : List (Expr × List Element) → Rendering Bool
  | [] => pure false
  | (condition, body) :: rest => do
    let v ← consult r className fun site scope => site.eval scope condition
    if v.truthy then
      performElements slot body
      pure true
    else performBranches slot rest
end

/-- Renders the slot of a block. Only so many blocks can be opened in each other. -/
def performSlot : Nat → String → Rendering Unit
  | 0, name => throw (.resolution r.name (some name) .recursiveBlock)
  | depth + 1, name => do
    let s ← get
    if s.active.contains name then throw (.resolution r.name (some name) .recursiveBlock)
    else
      match r.block? name with
      | none => pure ()
      | some b => inBlock name (performElements r className (performSlot depth) b.body)

end

/-- Renders elements of a composed template. No block is opened in itself, so that the blocks of the template
are as many as can be opened in each other. -/
def Resolved.perform (r : Resolved) (className : String) (es : List Element) : Rendering Unit :=
  performElements r className (performSlot r className (r.blocks.length + 1)) es

/-- Whether an element is rendered on frames of its own: a loop, or the slot of a block. -/
def hasOwnFrames : Element → Bool
  | .loop _ _ _ | .slot _ => true
  | _ => false

/-- Elements have a text: from given stacks they do not fail, and the text is what they write. -/
def Resolved.Writes (r : Resolved) (className : String) (s : Stacks) (es : List Element) (text : String) :
    Prop :=
  ∃ after, (r.perform className es).runFrom s = (.ok (), after) ∧ after.output = s.output ++ text

end ClassScribe.Template
