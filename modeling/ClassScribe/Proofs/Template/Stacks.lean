import ClassScribe.Proofs.Template.Course
import ClassScribe.Template.Stacks

/-! # What stays on the stacks

The machine that renders on stacks comes to what rendering comes to, and only the innermost frame can differ
afterwards, by what the elements themselves assign (`performElements_follows`). A round of a loop and a block
leave all frames and all open blocks as they were, also where they fail (`performSlot_keeps`). So what stands
behind a loop or a slot is rendered as if that were not there (`perform_scoped`). -/

namespace ClassScribe.Template

/-! ### Running computations -/

namespace Rendering
variable {α β : Type} {m : Rendering α} {s s' : Stacks}

theorem runFrom_bind_ok {a : α} (h : m.runFrom s = (.ok a, s')) (f : α → Rendering β) :
    runFrom (m >>= f) s = (f a).runFrom s' := by
  change m s = (.ok a, s') at h
  show (ExceptT.bindCont f (m s).1) (m s).2 = _
  rw [h]
  rfl

theorem runFrom_bind_error {e : Error} (h : m.runFrom s = (.error e, s')) (f : α → Rendering β) :
    runFrom (m >>= f) s = (.error e, s') := by
  change m s = (.error e, s') at h
  show (ExceptT.bindCont f (m s).1) (m s).2 = _
  rw [h]
  rfl

theorem runFrom_finally {body : Rendering Unit} {x : Except Error Unit} (h : body.runFrom s = (x, s'))
    (f : Stacks → Stacks) : runFrom (tryFinally body (modify f)) s = (x, f s') := by
  change body s = (x, s') at h
  unfold runFrom
  simp only [StateT.run, ExceptT.run, tryFinally, Functor.map, ExceptT.map, ExceptT.mk, bind, tryFinally',
    StateT.bind]
  rw [h]
  cases x with
  | error e => rfl
  | ok a => rfl

theorem runFrom_consult (r : Resolved) (className : String) (question : Site → Scope → Except Error α) :
    (consult r className question).runFrom s = (question (r.site className s.active) s.scope, s) := by
  have hget : (get : Rendering Stacks).runFrom s = (.ok s, s) := rfl
  unfold consult
  rw [runFrom_bind_ok hget]
  cases question (r.site className s.active) s.scope with
  | error e => rfl
  | ok a => rfl

end Rendering

open Rendering

/-! ### What a machine leaves -/

/-- Work on stacks that comes to a text or an error and leaves all frames and all open blocks as they are. -/
inductive Stacks.Keeps (s : Stacks) : Except Error String → Except Error Unit × Stacks → Prop
  | ok (text : String) : Keeps s (.ok text) (.ok (), s.write text)
  | error (e : Error) (output : String) : Keeps s (.error e) (.error e, { s with output := output })

/-- Work on stacks that comes to what a rendering comes to. The innermost frame may have been changed. -/
inductive Stacks.Follows (s : Stacks) : Except Error (String × Frame) → Except Error Unit × Stacks → Prop
  | ok (text : String) (frame : Frame) : Follows s (.ok (text, frame))
      (.ok (), { s.write text with scope := { s.scope with frame := frame } })
  | error (e : Error) (frame : Frame) (output : String) : Follows s (.error e)
      (.error e, { s with scope := { s.scope with frame := frame }, output := output })

/-- The same for branches, where it is told whether one has been taken. -/
inductive Stacks.Takes (s : Stacks) :
    Except Error (Option (String × Frame)) → Except Error Bool × Stacks → Prop
  | none : Takes s (.ok none) (.ok false, s)
  | some (text : String) (frame : Frame) : Takes s (.ok (some (text, frame)))
      (.ok true, { s.write text with scope := { s.scope with frame := frame } })
  | error (e : Error) (frame : Frame) (output : String) : Takes s (.error e)
      (.error e, { s with scope := { s.scope with frame := frame }, output := output })

section
variable {s : Stacks} {frame : Frame} {name : String} {body : Rendering Unit}

theorem Stacks.write_nil (s : Stacks) : s.write "" = s := by
  unfold Stacks.write
  rw [String.append_empty]

theorem Stacks.write_write (s : Stacks) (text more : String) :
    (s.write text).write more = s.write (text ++ more) := by
  unfold Stacks.write
  rw [String.append_assoc]

/-- Work that leaves the stacks follows a rendering that leaves the variables. -/
theorem Stacks.Keeps.follows {x : Except Error (String × Frame)} {y : Except Error Unit × Stacks}
    (h : s.Keeps (x.map (·.1)) y) (hx : ∀ result, x = .ok result → result.2 = s.scope.frame) :
    s.Follows x y := by
  cases x with
  | error e =>
      cases h with
      | error e output => exact .error e s.scope.frame output
  | ok result =>
      obtain ⟨text, frame⟩ := result
      obtain rfl : frame = s.scope.frame := hx _ rfl
      cases h with
      | ok text => exact .ok text s.scope.frame

theorem Stacks.Follows.behind {text : String} {x : Except Error (String × Frame)}
    {y : Except Error Unit × Stacks}
    (h : Stacks.Follows { s.write text with scope := { s.scope with frame := frame } } x y) :
    s.Follows (x.map fun more => (text ++ more.1, more.2)) y := by
  cases h with
  | error e last output => exact .error e last output
  | ok more last =>
      have hall := Stacks.Follows.ok (s := s) (text ++ more) last
      rw [← Stacks.write_write] at hall
      exact hall

theorem Stacks.Follows.taken {x : Except Error (String × Frame)} (h : s.Follows x (body.runFrom s)) :
    s.Takes (x.map some) (Rendering.runFrom (body >>= fun _ => pure true) s) := by
  generalize hy : body.runFrom s = y at h
  cases h with
  | ok text last =>
      rw [runFrom_bind_ok hy]
      exact .some text last
  | error e last output =>
      rw [runFrom_bind_error hy]
      exact .error e last output

theorem Stacks.Follows.onFrame {x : Except Error (String × Frame)}
    (h : (s.pushFrame frame).Follows x (body.runFrom (s.pushFrame frame))) :
    s.Keeps (x.map (·.1)) ((onFrame frame body).runFrom s) := by
  have hpush : (modify (·.pushFrame frame) : Rendering Unit).runFrom s = (.ok (), s.pushFrame frame) := rfl
  generalize hy : body.runFrom (s.pushFrame frame) = y at h
  obtain ⟨outcome, after⟩ := y
  unfold Template.onFrame
  rw [runFrom_bind_ok hpush, runFrom_finally hy]
  cases h with
  | ok text last => exact .ok text
  | error e last output => exact .error e output

theorem Stacks.Follows.inBlock {x : Except Error (String × Frame)}
    (h : ((s.openBlock name).pushFrame []).Follows x (body.runFrom ((s.openBlock name).pushFrame []))) :
    s.Keeps (x.map (·.1)) ((inBlock name body).runFrom s) := by
  have hopen : (modify (·.openBlock name) : Rendering Unit).runFrom s = (.ok (), s.openBlock name) := rfl
  have hframe := h.onFrame
  generalize hy : (Template.onFrame [] body).runFrom (s.openBlock name) = y at hframe
  obtain ⟨outcome, after⟩ := y
  unfold Template.inBlock
  rw [runFrom_bind_ok hopen, runFrom_finally hy]
  generalize x.map (·.1) = x at hframe ⊢
  cases hframe with
  | ok text => exact .ok text
  | error e output => exact .error e output

theorem performRounds_keeps {round : Nat → Value → Except Error String}
    {perform : Nat → Value → Rendering Unit}
    (h : ∀ text index item, (s.write text).Keeps (round index item)
      ((perform index item).runFrom (s.write text))) (values : List Value) :
    ∀ text index, (s.write text).Keeps (renderRounds round index values)
      ((performRounds perform index values).runFrom (s.write text)) := by
  induction values with
  | nil =>
      intro text index
      have hkeeps := Stacks.Keeps.ok (s := s.write text) ""
      rwa [Stacks.write_nil] at hkeeps
  | cons item values ih =>
      intro text index
      have hfirst := h text index item
      rw [renderRounds, performRounds]
      generalize hy : (perform index item).runFrom (s.write text) = y at hfirst
      generalize round index item = x at hfirst
      cases hfirst with
      | error e output =>
          rw [runFrom_bind_error hy]
          exact .error e output
      | ok first =>
          rw [Stacks.write_write] at hy
          have hrest := ih (text ++ first) (index + 1)
          rw [runFrom_bind_ok hy]
          generalize (performRounds perform (index + 1) values).runFrom (s.write (text ++ first)) = z at hrest
          generalize renderRounds round (index + 1) values = x at hrest ⊢
          cases hrest with
          | error e output => exact .error e output
          | ok more =>
              rw [Stacks.write_write, String.append_assoc, ← Stacks.write_write]
              exact .ok (first ++ more)

end

/-! ### Elements -/

section
variable {r : Resolved} {className : String} {slot : String → Rendering Unit} {active : List String}

/-- Work at slots that leaves the stacks and comes to the texts of the slots. -/
def SlotsKeep (r : Resolved) (className : String) (active : List String)
    (slot : String → Rendering Unit) : Prop :=
  ∀ name (s : Stacks), s.active = active →
    s.Keeps (renderSlot r className active s.scope name) ((slot name).runFrom s)

theorem frame_of_ownFrames {site : Site} {scope : Scope} {e : Element} (he : hasOwnFrames e = true)
    {result : String × Frame} (h : renderElement site scope e = .ok result) :
    result.2 = scope.frame := by
  cases e with
  | loop target items body =>
      obtain ⟨values, -, h⟩ := bind_eq_ok.mp h
      obtain ⟨text, -, h⟩ := bind_eq_ok.mp h
      cases h
      rfl
  | slot name =>
      obtain ⟨text, -, h⟩ := bind_eq_ok.mp h
      cases h
      rfl
  | _ => cases he

/-- A loop whose body follows the rendering of it leaves the stacks: every round is on a frame of its own,
above the frames that the loop stands in. -/
theorem performElement_loop_keeps {body : List Element} (hbody : ∀ s : Stacks, s.active = active →
      s.Follows (renderElements (r.site className active) s.scope body)
        ((performElements r className slot body).runFrom s))
    (target : String) (items : Expr) (s : Stacks) (hs : s.active = active) :
    s.Keeps ((renderElement (r.site className active) s.scope (.loop target items body)).map (·.1))
      ((performElement r className slot (.loop target items body)).runFrom s) := by
  have hitems := runFrom_consult (s := s) r className fun site scope => site.items scope items
  rw [renderElement, performElement]
  rw [hs] at hitems
  generalize (r.site className active).items s.scope items = x at hitems ⊢
  cases x with
  | error err =>
      rw [runFrom_bind_error hitems]
      exact .error err s.output
  | ok values =>
      have hround (text : String) (index : Nat) (item : Value) :
          (s.write text).Keeps
            (do
              let result ← renderElements (r.site className active)
                (s.scope.enter (loopFrame target item index values.length)) body
              pure result.1)
            ((onFrame (loopFrame target item index values.length)
              (performElements r className slot body)).runFrom (s.write text)) :=
        (hbody ((s.write text).pushFrame (loopFrame target item index values.length)) hs).onFrame
      have hrounds := performRounds_keeps hround values "" 0
      rw [Stacks.write_nil] at hrounds
      rw [runFrom_bind_ok hitems]
      show s.Keeps (Except.map _ (renderRounds _ 0 values >>= _)) _
      generalize renderRounds _ 0 values = x at hrounds ⊢
      cases x with
      | error err => exact hrounds
      | ok text => exact hrounds

theorem performElement_slot_keeps (hslot : SlotsKeep r className active slot) (name : String) (s : Stacks)
    (hs : s.active = active) :
    s.Keeps ((renderElement (r.site className active) s.scope (.slot name)).map (·.1))
      ((performElement r className slot (.slot name)).runFrom s) := by
  have hkeeps := hslot name s hs
  rw [renderElement, performElement]
  show s.Keeps (Except.map _ (renderSlot r className active s.scope name >>= _)) _
  generalize renderSlot r className active s.scope name = x at hkeeps ⊢
  cases x with
  | error err => exact hkeeps
  | ok text => exact hkeeps

mutual
theorem performElement_follows (hslot : SlotsKeep r className active slot) :
    ∀ (e : Element) (s : Stacks), s.active = active →
      s.Follows (renderElement (r.site className active) s.scope e)
        ((performElement r className slot e).runFrom s)
  | .text text, s, _ => .ok text s.scope.frame
  | .output e, s, hs => by
      have hprint := runFrom_consult (s := s) r className fun site scope => site.print scope e
      rw [renderElement, performElement]
      rw [hs] at hprint
      generalize (r.site className active).print s.scope e = x at hprint ⊢
      cases x with
      | error err =>
          rw [runFrom_bind_error hprint]
          exact .error err s.scope.frame s.output
      | ok text =>
          rw [runFrom_bind_ok hprint]
          exact .ok text s.scope.frame
  | .super, s, hs => by
      rw [renderElement, performElement, ← hs]
      exact .error _ s.scope.frame s.output
  | .choice branches otherwise, s, hs => by
      have hbranches := performBranches_takes hslot branches s hs
      rw [renderElement, performElement]
      generalize hy : (performBranches r className slot branches).runFrom s = y at hbranches
      generalize renderBranches (r.site className active) s.scope branches = x at hbranches
      cases hbranches with
      | none =>
          rw [runFrom_bind_ok hy]
          exact performElements_follows hslot otherwise s hs
      | some text frame =>
          rw [runFrom_bind_ok hy]
          exact .ok text frame
      | error err frame output =>
          rw [runFrom_bind_error hy]
          exact .error err frame output
  | .loop target items body, s, hs =>
      (performElement_loop_keeps (performElements_follows hslot body) target items s hs).follows fun _ =>
        frame_of_ownFrames rfl
  | .assign name value, s, hs => by
      have hvalue := runFrom_consult (s := s) r className fun site scope => site.eval scope value
      rw [renderElement, performElement]
      rw [hs] at hvalue
      generalize (r.site className active).eval s.scope value = x at hvalue ⊢
      cases x with
      | error err =>
          rw [runFrom_bind_error hvalue]
          exact .error err s.scope.frame s.output
      | ok v =>
          rw [runFrom_bind_ok hvalue]
          have hassign := Stacks.Follows.ok (s := s) "" (Value.setField name v s.scope.frame)
          rwa [Stacks.write_nil] at hassign
  | .slot name, s, hs => (performElement_slot_keeps hslot name s hs).follows fun _ => frame_of_ownFrames rfl
theorem performElements_follows (hslot : SlotsKeep r className active slot) :
    ∀ (es : List Element) (s : Stacks), s.active = active →
      s.Follows (renderElements (r.site className active) s.scope es)
        ((performElements r className slot es).runFrom s)
  | [], s, _ => by
      have hnone := Stacks.Follows.ok (s := s) "" s.scope.frame
      rwa [Stacks.write_nil] at hnone
  | e :: rest, s, hs => by
      have hfirst := performElement_follows hslot e s hs
      rw [renderElements, performElements]
      generalize hy : (performElement r className slot e).runFrom s = y at hfirst
      generalize renderElement (r.site className active) s.scope e = x at hfirst
      cases hfirst with
      | error err frame output =>
          rw [runFrom_bind_error hy]
          exact .error err frame output
      | ok text frame =>
          have hrest := performElements_follows hslot rest
            { s.write text with scope := { s.scope with frame := frame } } hs
          rw [runFrom_bind_ok hy]
          exact hrest.behind
theorem performBranches_takes (hslot : SlotsKeep r className active slot) :
    ∀ (branches : List (Expr × List Element)) (s : Stacks), s.active = active →
      s.Takes (renderBranches (r.site className active) s.scope branches)
        ((performBranches r className slot branches).runFrom s)
  | [], s, _ => .none
  | (condition, body) :: rest, s, hs => by
      have hvalue := runFrom_consult (s := s) r className fun site scope => site.eval scope condition
      rw [renderBranches, performBranches]
      rw [hs] at hvalue
      generalize (r.site className active).eval s.scope condition = x at hvalue ⊢
      cases x with
      | error err =>
          rw [runFrom_bind_error hvalue]
          exact .error err s.scope.frame s.output
      | ok v =>
          rw [runFrom_bind_ok hvalue]
          show s.Takes (if v.truthy = true then _ else _)
            ((if v.truthy = true then _ else _ : Rendering Bool).runFrom s)
          by_cases htruthy : v.truthy = true
          · rw [if_pos htruthy, if_pos htruthy]
            exact (performElements_follows hslot body s hs).taken
          · rw [if_neg htruthy, if_neg htruthy]
            exact performBranches_takes hslot rest s hs
end

/-- Loops and slots leave the stacks, also where they fail. -/
theorem performElement_keeps (hslot : SlotsKeep r className active slot) {e : Element}
    (he : hasOwnFrames e = true) (s : Stacks) (hs : s.active = active) :
    s.Keeps ((renderElement (r.site className active) s.scope e).map (·.1))
      ((performElement r className slot e).runFrom s) := by
  cases e with
  | loop target items body =>
      exact performElement_loop_keeps (performElements_follows hslot body) target items s hs
  | slot name => exact performElement_slot_keeps hslot name s hs
  | _ => cases he

/-- If more blocks can be opened than there are left, the machine comes to the texts of slots and leaves the
stacks. -/
theorem performSlot_keeps : ∀ (depth : Nat) (active : List String), (idle r active).length < depth →
    SlotsKeep r className active (performSlot r className depth)
  | 0, _, h => absurd h (Nat.not_lt_zero _)
  | depth + 1, active, h => by
      intro name s hs
      have hget : (get : Rendering Stacks).runFrom s = (.ok s, s) := rfl
      rw [performSlot, runFrom_bind_ok hget, hs]
      by_cases hmem : name ∈ active
      · rw [if_pos (by simpa using hmem), renderSlot_of_mem hmem]
        exact .error _ s.output
      · rw [if_neg (by simpa using hmem)]
        cases hb : r.block? name with
        | none =>
            have hnone := Stacks.Keeps.ok (s := s) ""
            rw [renderSlot_of_no_block hmem hb]
            rwa [Stacks.write_nil] at hnone
        | some b =>
            have hlt := idle_cons_lt hb (by simpa using hmem)
            have hinner := performSlot_keeps depth (name :: active) (by omega)
            have hopen : ((s.openBlock name).pushFrame []).active = name :: active := congrArg _ hs
            rw [renderSlot_of_block hmem hb]
            exact (performElements_follows hinner b.body _ hopen).inBlock

end

/-! ### Composed templates -/

section
variable {r : Resolved} {className : String} {s : Stacks} {e : Element} {es rest : List Element}
  {text : String}

theorem slotsKeep (r : Resolved) (className : String) (active : List String) :
    SlotsKeep r className active (performSlot r className (r.blocks.length + 1)) := by
  have hidle : (idle r active).length ≤ r.blocks.length := List.length_filter_le _ _
  exact performSlot_keeps _ _ (by omega)

theorem perform_follows (r : Resolved) (className : String) (es : List Element) (s : Stacks) :
    s.Follows (renderElements (r.site className s.active) s.scope es)
      ((r.perform className es).runFrom s) :=
  performElements_follows (slotsKeep r className s.active) es s rfl

/-- What elements write is the text that rendering gives them. -/
theorem writes_iff : r.Writes className s es text ↔
    ∃ frame, renderElements (r.site className s.active) s.scope es = .ok (text, frame) := by
  have hfollows := perform_follows r className es s
  unfold Resolved.Writes
  generalize (r.perform className es).runFrom s = y at hfollows ⊢
  generalize renderElements (r.site className s.active) s.scope es = x at hfollows ⊢
  cases hfollows with
  | ok written frame =>
      constructor
      · rintro ⟨after, h, hafter⟩
        cases h
        obtain rfl : written = text := (String.append_right_inj s.output).mp hafter
        exact ⟨frame, rfl⟩
      · rintro ⟨_, h⟩
        cases h
        exact ⟨_, rfl, rfl⟩
  | error err frame output =>
      constructor
      · rintro ⟨_, h, -⟩
        cases h
      · rintro ⟨_, h⟩
        cases h

/-- The machine fails as rendering does. -/
theorem perform_error_iff {err : Error} : ((r.perform className es).runFrom s).1 = .error err ↔
    renderElements (r.site className s.active) s.scope es = .error err := by
  have hfollows := perform_follows r className es s
  generalize (r.perform className es).runFrom s = y at hfollows ⊢
  generalize renderElements (r.site className s.active) s.scope es = x at hfollows ⊢
  cases hfollows with
  | ok written frame =>
      constructor
      · intro h
        cases h
      · intro h
        cases h
  | error e frame output => rw [Except.error.injEq, Except.error.injEq]

theorem writes_layout_iff {context : Frame} :
    r.Writes className (.start context) r.layout text ↔ render r className context = .ok text := by
  rw [writes_iff]
  constructor
  · rintro ⟨frame, h⟩
    exact bind_eq_ok.mpr ⟨(text, frame), h, rfl⟩
  · intro h
    obtain ⟨⟨written, frame⟩, hes, hwritten⟩ := bind_eq_ok.mp h
    cases hwritten
    exact ⟨frame, hes⟩

theorem runFrom_perform_singleton (r : Resolved) (className : String) (e : Element) (s : Stacks) :
    (r.perform className [e]).runFrom s =
      (performElement r className (performSlot r className (r.blocks.length + 1)) e).runFrom s := by
  unfold Resolved.perform
  rw [performElements, performElements]
  generalize hy : (performElement r className (performSlot r className (r.blocks.length + 1)) e).runFrom s = y
  obtain ⟨x, after⟩ := y
  cases x with
  | error err => exact runFrom_bind_error hy _
  | ok u => exact runFrom_bind_ok hy _

theorem perform_leaves_stacks (he : hasOwnFrames e = true) :
    ((r.perform className [e]).runFrom s).2.scope = s.scope ∧
      ((r.perform className [e]).runFrom s).2.active = s.active := by
  have hkeeps := performElement_keeps (slotsKeep r className s.active) he s rfl
  rw [runFrom_perform_singleton]
  generalize Rendering.runFrom _ s = y at hkeeps ⊢
  generalize Except.map _ _ = x at hkeeps
  cases hkeeps with
  | ok text => exact ⟨rfl, rfl⟩
  | error err output => exact ⟨rfl, rfl⟩

theorem writes_singleton_iff :
    r.Writes className s [e] text ↔
      ∃ frame, renderElement (r.site className s.active) s.scope e = .ok (text, frame) := by
  rw [writes_iff, renderElements_singleton]

/-- What stands behind a loop or a slot is rendered from the stacks that the loop or slot is rendered from. -/
theorem writes_cons_iff (he : hasOwnFrames e = true) :
    r.Writes className s (e :: rest) text ↔
      ∃ first more, r.Writes className s [e] first ∧ r.Writes className s rest more ∧
        text = first ++ more := by
  rw [writes_iff]
  constructor
  · rintro ⟨frame, h⟩
    rw [renderElements] at h
    obtain ⟨⟨first, f⟩, hfirst, h⟩ := bind_eq_ok.mp h
    obtain ⟨⟨more, last⟩, hmore, h⟩ := bind_eq_ok.mp h
    cases h
    obtain rfl : f = s.scope.frame := frame_of_ownFrames he hfirst
    exact ⟨first, more, writes_singleton_iff.mpr ⟨_, hfirst⟩, writes_iff.mpr ⟨_, hmore⟩, rfl⟩
  · rintro ⟨first, more, hfirst, hmore, rfl⟩
    obtain ⟨f, hfirst⟩ := writes_singleton_iff.mp hfirst
    obtain ⟨last, hmore⟩ := writes_iff.mp hmore
    obtain rfl : f = s.scope.frame := frame_of_ownFrames he hfirst
    refine ⟨last, ?_⟩
    rw [renderElements]
    exact bind_eq_ok.mpr ⟨_, hfirst, bind_eq_ok.mpr ⟨_, hmore, rfl⟩⟩

/-- Every round of a loop is rendered from the stacks of the loop, with the frame of the round on top. -/
theorem writes_loop_iff {target : String} {items : Expr} {body : List Element} :
    r.Writes className s [.loop target items body] text ↔
      ∃ values texts, (r.site className s.active).items s.scope items = .ok values ∧
        List.Forall₂ (fun item t =>
          r.Writes className (s.pushFrame (loopFrame target item.1 item.2 values.length)) body t)
          values.zipIdx texts ∧
        text = String.join texts := by
  have hround (values : List Value) (item : Value × Nat) (t : String) :
      (do
        let result ← renderElements (r.site className s.active)
          (s.scope.enter (loopFrame target item.1 item.2 values.length)) body
        pure result.1 : Except Error String) = .ok t ↔
      r.Writes className (s.pushFrame (loopFrame target item.1 item.2 values.length)) body t := by
    rw [writes_iff, bind_eq_ok]
    constructor
    · rintro ⟨⟨written, frame⟩, h, hwritten⟩
      cases hwritten
      exact ⟨frame, h⟩
    · rintro ⟨frame, h⟩
      exact ⟨(t, frame), h, rfl⟩
  rw [writes_singleton_iff]
  constructor
  · rintro ⟨frame, h⟩
    rw [renderElement] at h
    obtain ⟨values, hvalues, h⟩ := bind_eq_ok.mp h
    obtain ⟨written, hrounds, h⟩ := bind_eq_ok.mp h
    cases h
    obtain ⟨texts, htexts, rfl⟩ := renderRounds_eq_ok_iff.mp hrounds
    exact ⟨values, texts, hvalues, htexts.imp fun item t => (hround values item t).mp, rfl⟩
  · rintro ⟨values, texts, hvalues, htexts, rfl⟩
    refine ⟨s.scope.frame, bind_eq_ok.mpr ⟨values, hvalues, bind_eq_ok.mpr ⟨_, ?_, rfl⟩⟩⟩
    exact renderRounds_eq_ok_iff.mpr ⟨texts, htexts.imp fun item t => (hround values item t).mpr, rfl⟩

/-- The body of a block is rendered from the stacks of the slot, with the block open and an empty frame on
top. -/
theorem writes_slot_iff {name : String} :
    r.Writes className s [.slot name] text ↔
      name ∉ s.active ∧ ((r.block? name = none ∧ text = "") ∨
        ∃ b, r.block? name = some b ∧
          r.Writes className ((s.openBlock name).pushFrame []) b.body text) := by
  have hslot : r.Writes className s [.slot name] text ↔
      renderSlot r className s.active s.scope name = .ok text := by
    rw [writes_singleton_iff]
    constructor
    · rintro ⟨frame, h⟩
      rw [renderElement] at h
      obtain ⟨written, hslot, hwritten⟩ := bind_eq_ok.mp h
      cases hwritten
      exact hslot
    · intro h
      exact ⟨s.scope.frame, bind_eq_ok.mpr ⟨text, h, rfl⟩⟩
  rw [hslot]
  by_cases hmem : name ∈ s.active
  · rw [renderSlot_of_mem hmem]
    constructor
    · intro h
      cases h
    · rintro ⟨hnot, -⟩
      exact absurd hmem hnot
  · cases hb : r.block? name with
    | none =>
        rw [renderSlot_of_no_block hmem hb]
        constructor
        · intro h
          cases h
          exact ⟨hmem, .inl ⟨rfl, rfl⟩⟩
        · rintro ⟨-, ⟨-, rfl⟩ | ⟨b, h, -⟩⟩
          · rfl
          · cases h
    | some b =>
        rw [renderSlot_of_block hmem hb, map_eq_ok]
        constructor
        · rintro ⟨⟨written, frame⟩, h, rfl⟩
          exact ⟨hmem, .inr ⟨b, rfl, writes_iff.mpr ⟨frame, h⟩⟩⟩
        · rintro ⟨-, ⟨h, -⟩ | ⟨c, hc, hwrites⟩⟩
          · cases h
          · cases hc
            obtain ⟨frame, h⟩ := writes_iff.mp hwrites
            exact ⟨(text, frame), h, rfl⟩

end

/-- What a loop or a block does with variables stays in it. From any stacks, a loop or the slot of a block
leaves all frames and all open blocks as they were, whether it has a text or fails. So it has a text together
with what stands behind it just if both have one from these same stacks, and then the texts stand in a row;
and each round of the loop, and the body of the block, has the text that it has from these stacks with a
frame for it on top. What the machine writes is what rendering gives, and it fails as rendering does. -/
theorem perform_scoped (r : Resolved) (className : String) (s : Stacks) (e : Element)
    (rest : List Element) (he : hasOwnFrames e = true) :
    (((r.perform className [e]).runFrom s).2.scope = s.scope ∧
      ((r.perform className [e]).runFrom s).2.active = s.active) ∧
    (∀ text, r.Writes className s (e :: rest) text ↔
      ∃ first more, r.Writes className s [e] first ∧ r.Writes className s rest more ∧
        text = first ++ more) ∧
    (∀ target items body, e = .loop target items body → ∀ text, r.Writes className s [e] text ↔
      ∃ values texts, (r.site className s.active).items s.scope items = .ok values ∧
        List.Forall₂ (fun item t =>
          r.Writes className (s.pushFrame (loopFrame target item.1 item.2 values.length)) body t)
          values.zipIdx texts ∧
        text = String.join texts) ∧
    (∀ name, e = .slot name → ∀ text, r.Writes className s [e] text ↔
      name ∉ s.active ∧ ((r.block? name = none ∧ text = "") ∨
        ∃ b, r.block? name = some b ∧
          r.Writes className ((s.openBlock name).pushFrame []) b.body text)) ∧
    (∀ es, (∀ text, r.Writes className s es text ↔
        ∃ frame, renderElements (r.site className s.active) s.scope es = .ok (text, frame)) ∧
      ∀ err, ((r.perform className es).runFrom s).1 = .error err ↔
        renderElements (r.site className s.active) s.scope es = .error err) ∧
    ∀ context text, r.Writes className (.start context) r.layout text ↔
      render r className context = .ok text := by
  refine ⟨perform_leaves_stacks he, fun text => writes_cons_iff he, ?_, ?_, ?_, ?_⟩
  · rintro target items body rfl text
    exact writes_loop_iff
  · rintro name rfl text
    exact writes_slot_iff
  · intro es
    exact ⟨fun text => writes_iff, fun err => perform_error_iff⟩
  · intro context text
    exact writes_layout_iff

/-- Stacks with a variable in the innermost frame and a list in the context. -/
def weighed : Stacks :=
  ⟨⟨[("w", .text "1")], [[("xs", .sequence [.text "5", .text "6"])]]⟩, [], ""⟩

/-- A loop that gives the variable a value of its own in each round. -/
def weighing : Element := .loop "x" (.var "xs") [.assign "w" (.var "x"), .output (.var "w")]

/-- Behind the loop the variable is what it was. -/
theorem perform_scoped_weighing :
    hasOwnFrames weighing = true ∧ entwined.Writes "Page" weighed [weighing] "56" ∧
      entwined.Writes "Page" weighed [.output (.var "w")] "1" ∧
      entwined.Writes "Page" weighed [weighing, .output (.var "w")] "561" := by
  have hloop : entwined.Writes "Page" weighed [weighing] "56" := ⟨_, rfl, rfl⟩
  have hbehind : entwined.Writes "Page" weighed [.output (.var "w")] "1" := ⟨_, rfl, rfl⟩
  have hscoped := perform_scoped entwined "Page" weighed weighing [.output (.var "w")] rfl
  exact ⟨rfl, hloop, hbehind, (hscoped.2.1 _).mpr ⟨_, _, hloop, hbehind, by decide⟩⟩

end ClassScribe.Template
