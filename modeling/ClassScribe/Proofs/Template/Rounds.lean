import ClassScribe.Proofs.Template.Variables

/-! # Rounds of loops

The rounds of a loop differ in their items and in the record `loop`. If the body of the loop does not name that
record, and has no slots behind which another body could, then the record is of no account: a round has the
text that the body has in a scope with the item alone (`round_eq`). So a loop over a list has the texts of the
items in a row, and a loop over two lists in a row has the text of the loops over each of them
(`renderLoop_append`). -/

namespace ClassScribe.Template

/-! ### Rounds -/

/-- The text of a loop that goes over some values. -/
def renderLoop (site : Site) (scope : Scope) (target : String) (body : List Element) (values : List Value) :
    Except Error String :=
  renderRounds (fun index item => do
    let result ← renderElements site (scope.enter (loopFrame target item index values.length)) body
    pure result.1) 0 values

/-- The text of the body of a loop for an item, in a scope that has no record of the loop. -/
def roundText (site : Site) (scope : Scope) (target : String) (body : List Element) (item : Value) :
    Except Error String :=
  (renderElements site (scope.enter [(target, item)]) body).map (·.1)

section
variable {site : Site} {scope : Scope} {target : String} {body : List Element}

theorem renderElement_loop {items : Expr} {values : List Value} (h : site.items scope items = .ok values) :
    renderElement site scope (.loop target items body) =
      (renderLoop site scope target body values).map fun text => (text, scope.frame) := by
  show (site.items scope items >>= _) = _
  rw [h]
  show (renderLoop site scope target body values >>= fun text => pure (text, scope.frame)) = _
  cases renderLoop site scope target body values <;> rfl

theorem framesAgree_loopFrame {names : List String} (h : "loop" ∉ names) (item : Value) (index length : Nat) :
    FramesAgree names (loopFrame target item index length) [(target, item)] := by
  intro name hname
  have hne : name ≠ "loop" := fun heq => h (heq ▸ hname)
  rw [loopFrame, Value.field?_ofFields]
  show List.lookup name [("loop", loopInfo index length), (target, item)] = _
  rw [List.lookup_cons, beq_false_of_ne hne]
  rfl

/-- A body that does not name the record `loop` has the same text in all rounds with the same item. -/
theorem round_eq (hslots : slots body = []) (hloop : "loop" ∉ variablesOf body) (item : Value)
    (index length : Nat) :
    (do
      let result ← renderElements site (scope.enter (loopFrame target item index length)) body
      pure result.1) = roundText site scope target body item := by
  have hself : scope.Agrees (variablesOf body) scope :=
    ⟨.refl _ _, List.forall₂_same.mpr fun frame _ => .refl _ frame⟩
  have hnone : site.SlotsRead (variablesOf body) (slots body) := by
    rw [hslots]
    exact List.forall_mem_nil _
  exact text_eq_of_agree (renderElements_agree body (List.Subset.refl _) hnone
    (hself.enter (framesAgree_loopFrame hloop item index length)))

theorem renderRounds_const (round : Value → Except Error String) (index : Nat) (values : List Value) :
    renderRounds (fun _ item => round item) index values = (values.mapM round).map String.join := by
  induction values generalizing index with
  | nil => rfl
  | cons item values ih =>
      rw [renderRounds, ih, List.mapM_cons]
      cases round item with
      | error err => rfl
      | ok text =>
          cases values.mapM round with
          | error err => rfl
          | ok texts => exact congrArg Except.ok String.join_cons.symm

/-- A loop whose body does not name its record has one text for each item. -/
theorem renderLoop_eq (hslots : slots body = []) (hloop : "loop" ∉ variablesOf body) (values : List Value) :
    renderLoop site scope target body values =
      (values.mapM (roundText site scope target body)).map String.join := by
  unfold renderLoop
  simp only [round_eq hslots hloop]
  exact renderRounds_const _ 0 values

end

/-! ### Loops over lists in a row -/

section
variable {site : Site} {scope : Scope} {target : String} {body : List Element}

theorem renderLoop_append (hslots : slots body = []) (hloop : "loop" ∉ variablesOf body)
    (ys zs : List Value) :
    renderLoop site scope target body (ys ++ zs) = renderLoop site scope target body ys >>= fun first =>
      (renderLoop site scope target body zs).map (first ++ ·) := by
  rw [renderLoop_eq hslots hloop, renderLoop_eq hslots hloop, renderLoop_eq hslots hloop, List.mapM_append]
  cases ys.mapM (roundText site scope target body) with
  | error err => rfl
  | ok texts =>
      cases zs.mapM (roundText site scope target body) with
      | error err => rfl
      | ok more => exact congrArg Except.ok String.join_append

end

/-- Loops keep the order of their items and take lists apart. Where the body of a loop has no slots and does not
name the record `loop`, the loop over two lists in a row has a text just if the loops over each of them have
one, from the same place and in the same scope, and then it is the text of the first followed by the one of
the second; it fails as the first does, or else as the second does. So the text is made up of one text for
each item, in the order of the items, and that text depends on the item and on the scope around the loop. -/
theorem renderLoop_rounds (site : Site) (scope : Scope) (target : String) (body : List Element)
    (hslots : slots body = []) (hloop : "loop" ∉ variablesOf body) :
    (∀ items values, site.items scope items = .ok values →
      renderElement site scope (.loop target items body) =
        (renderLoop site scope target body values).map fun text => (text, scope.frame)) ∧
    (∀ ys zs text, renderLoop site scope target body (ys ++ zs) = .ok text ↔
      ∃ first more, renderLoop site scope target body ys = .ok first ∧
        renderLoop site scope target body zs = .ok more ∧ text = first ++ more) ∧
    (∀ ys zs err, renderLoop site scope target body (ys ++ zs) = .error err ↔
      renderLoop site scope target body ys = .error err ∨
        (∃ first, renderLoop site scope target body ys = .ok first) ∧
          renderLoop site scope target body zs = .error err) ∧
    ∀ values, renderLoop site scope target body values =
      (values.mapM (roundText site scope target body)).map String.join := by
  refine ⟨fun items values => renderElement_loop, fun ys zs text => ?_, fun ys zs err => ?_,
    renderLoop_eq hslots hloop⟩
  · rw [renderLoop_append hslots hloop, bind_eq_ok]
    constructor
    · rintro ⟨first, hfirst, h⟩
      obtain ⟨more, hmore, rfl⟩ := map_eq_ok.mp h
      exact ⟨first, more, hfirst, hmore, rfl⟩
    · rintro ⟨first, more, hfirst, hmore, rfl⟩
      exact ⟨first, hfirst, map_eq_ok.mpr ⟨more, hmore, rfl⟩⟩
  · rw [renderLoop_append hslots hloop, bind_eq_error]
    simp only [map_eq_error, exists_and_right]

/-- The body of a loop that gives a variable a value of its own in each round. -/
def notedBody : List Element := [.assign "note" (.var "x"), .output (.var "note"), .text ";"]

/-- A loop over two lists in a row, and one that fails in its last round. -/
theorem renderLoop_rounds_noted :
    let render (values : List Value) :=
      renderLoop (captioned.site "Page" []) ⟨[], [captionedContext]⟩ "x" notedBody values
    slots notedBody = [] ∧ "loop" ∉ variablesOf notedBody ∧
      render ([.text "a"] ++ [.text "b", .text "c"]) = .ok "a;b;c;" ∧
      render ([.text "a"] ++ [.none]) =
        .error (.render "Page" "page" none (.print "note" .none)) := by
  obtain ⟨-, htext, hfail, -⟩ := renderLoop_rounds (captioned.site "Page" []) ⟨[], [captionedContext]⟩ "x"
    notedBody rfl (by decide)
  refine ⟨rfl, by decide, (htext _ _ _).mpr ⟨"a;", "b;c;", rfl, rfl, by decide⟩, ?_⟩
  exact (hfail _ _ _).mpr (.inr ⟨⟨"a;", rfl⟩, rfl⟩)

end ClassScribe.Template
