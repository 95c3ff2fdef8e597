import ClassScribe.Proofs.Template.Rendering
import ClassScribe.Template.Slots
import ClassScribe.Template.Variables

/-! # What a rendering depends on

Two renderings of the same elements run side by side, in scopes that agree on the variables that the elements
name (`Scope.Agrees`). They take the same branches and rounds, assign the same values and keep agreeing
(`renderElements_agree`), whatever else the scopes hold. So the text of a composed template depends on the
variables of a context that the template names, and on nothing else of it (`render_reads`). -/

namespace ClassScribe

/-! ### Expressions -/

namespace Expr
variable {scope scope' : Lookup}

mutual
theorem find_congr : ∀ (e : Expr), (∀ name ∈ e.varNames, scope name = scope' name) →
    find scope e = find scope' e
  | .literal _, _ => rfl
  | .list items, h => by
      rw [find, find, evalItems_congr items h]
  | .var name, h => by
      have hname : scope name = scope' name := h name List.mem_cons_self
      rw [find, find, hname]
  | .attr base name, h => by
      rw [find, find, find_congr base h]
  | .index base key, h => by
      obtain ⟨hbase, hkey⟩ := List.forall_mem_append.mp h
      rw [find, find, find_congr base hbase, find_congr key hkey]
  | .filter input name args, h => by
      obtain ⟨hinput, hargs⟩ := List.forall_mem_append.mp h
      rw [find, find, find_congr input hinput, evalItems_congr args hargs]
  | .test input property negated, h => by
      rw [find, find, find_congr input h]
  | .not operand, h => by
      rw [find, find, find_congr operand h]
  | .neg operand, h => by
      rw [find, find, find_congr operand h]
  | .binary op left right, h => by
      obtain ⟨hleft, hright⟩ := List.forall_mem_append.mp h
      rw [find, find, find_congr left hleft, find_congr right hright]
  | .conditional yes condition no, h => by
      obtain ⟨hyes, hno⟩ := List.forall_mem_append.mp h
      obtain ⟨hyes, hcondition⟩ := List.forall_mem_append.mp hyes
      rw [find, find, find_congr yes hyes, find_congr condition hcondition, find_congr no hno]
theorem evalItems_congr : ∀ (items : List Expr), (∀ name ∈ varNamesOf items, scope name = scope' name) →
    evalItems scope items = evalItems scope' items
  | [], _ => rfl
  | e :: rest, h => by
      obtain ⟨hfirst, hrest⟩ := List.forall_mem_append.mp h
      rw [evalItems, evalItems, find_congr e hfirst, evalItems_congr rest hrest]
end

/-- The value of an expression depends on the values of its variables. -/
theorem eval_congr {e : Expr} (h : ∀ name ∈ e.varNames, scope name = scope' name) :
    e.eval scope = e.eval scope' := by
  rw [eval, eval, find_congr e h]

end Expr

namespace Template

/-! ### Scopes that agree -/

/-- Two frames with the same values of some variables. -/
def FramesAgree (names : List String) (frame frame' : Frame) : Prop :=
  ∀ name ∈ names, Value.field? frame name = Value.field? frame' name

theorem FramesAgree.refl (names : List String) (frame : Frame) : FramesAgree names frame frame :=
  fun _ _ => rfl

theorem FramesAgree.setField {names : List String} {frame frame' : Frame}
    (h : FramesAgree names frame frame') (target : String) (v : Value) :
    FramesAgree names (Value.setField target v frame) (Value.setField target v frame') := by
  intro name hname
  by_cases htarget : name = target
  · rw [htarget, Value.field?_setField_self, Value.field?_setField_self]
  · rw [Value.field?_setField_of_ne htarget, Value.field?_setField_of_ne htarget]
    exact h name hname

/-- Two scopes with as many frames, and with the same values of some variables in each of them. -/
structure Scope.Agrees (names : List String) (scope scope' : Scope) : Prop where
  frame : FramesAgree names scope.frame scope'.frame
  outer : List.Forall₂ (FramesAgree names) scope.outer scope'.outer

namespace Scope.Agrees
variable {names : List String} {scope scope' : Scope}

theorem lookup (h : scope.Agrees names scope') : ∀ name ∈ names, scope.lookup name = scope'.lookup name := by
  intro name hname
  have hframes : List.Forall₂ (FramesAgree names) (scope.frame :: scope.outer)
      (scope'.frame :: scope'.outer) := .cons h.frame h.outer
  unfold Scope.lookup
  generalize scope.frame :: scope.outer = frames at hframes ⊢
  generalize scope'.frame :: scope'.outer = frames' at hframes ⊢
  induction hframes with
  | nil => rfl
  | cons hframe _ ih => rw [List.findSome?_cons, List.findSome?_cons, hframe name hname, ih]

theorem enter (h : scope.Agrees names scope') {frame frame' : Frame} (hf : FramesAgree names frame frame') :
    (scope.enter frame).Agrees names (scope'.enter frame') :=
  ⟨hf, .cons h.frame h.outer⟩

theorem withFrame (h : scope.Agrees names scope') {frame frame' : Frame}
    (hf : FramesAgree names frame frame') :
    ({ scope with frame := frame } : Scope).Agrees names { scope' with frame := frame' } :=
  ⟨hf, h.outer⟩

theorem eval (h : scope.Agrees names scope') (site : Site) {e : Expr} (he : e.varNames ⊆ names) :
    site.eval scope e = site.eval scope' e := by
  have hvalue : e.eval scope.lookup = e.eval scope'.lookup :=
    Expr.eval_congr fun name hname => h.lookup name (he hname)
  unfold Site.eval
  rw [hvalue]

theorem print (h : scope.Agrees names scope') (site : Site) {e : Expr} (he : e.varNames ⊆ names) :
    site.print scope e = site.print scope' e := by
  unfold Site.print
  rw [h.eval site he]

theorem items (h : scope.Agrees names scope') (site : Site) {e : Expr} (he : e.varNames ⊆ names) :
    site.items scope e = site.items scope' e := by
  unfold Site.items
  rw [h.eval site he]

end Scope.Agrees

/-! ### Elements -/

/-- The same text, with frames after it that agree on some variables. -/
def ResultsAgree (names : List String) (result result' : String × Frame) : Prop :=
  result.1 = result'.1 ∧ FramesAgree names result.2 result'.2

/-- Slots whose texts depend on some variables only. -/
def Site.SlotsRead (site : Site) (names inner : List String) : Prop :=
  ∀ name ∈ inner, ∀ scope scope', Scope.Agrees names scope scope' →
    site.slot scope name = site.slot scope' name

section
variable {site : Site} {names : List String}

theorem text_eq_of_agree {x x' : Except Error (String × Frame)} (h : Alike Eq (ResultsAgree names) x x') :
    x.map (·.1) = x'.map (·.1) := by
  cases h with
  | ok hresult => exact congrArg Except.ok hresult.1
  | error herr => exact congrArg Except.error herr

mutual
theorem renderElement_agree : ∀ (e : Element), elementVariables e ⊆ names →
    site.SlotsRead names (elementSlots e) → ∀ {scope scope' : Scope}, scope.Agrees names scope' →
    Alike Eq (ResultsAgree names) (renderElement site scope e) (renderElement site scope' e)
  | .text s, _, _, _, _, h => .ok ⟨rfl, h.frame⟩
  | .output e, hvars, _, scope, scope', h => by
      rw [renderElement, renderElement, h.print site hvars]
      cases site.print scope' e with
      | error err => exact .error rfl
      | ok text => exact .ok ⟨rfl, h.frame⟩
  | .super, _, _, _, _, _ => .error rfl
  | .choice branches otherwise, hvars, hslots, scope, scope', h => by
      obtain ⟨hbranches, hotherwise⟩ := List.append_subset.mp hvars
      obtain ⟨sbranches, sotherwise⟩ := List.forall_mem_append.mp hslots
      rw [renderElement, renderElement]
      apply (renderBranches_agree branches hbranches sbranches h).bind
      intro found found' hfound
      cases hfound with
      | none => exact renderElements_agree otherwise hotherwise sotherwise h
      | some hresult => exact .ok hresult
  | .loop target items body, hvars, hslots, scope, scope', h => by
      obtain ⟨hitems, hbody⟩ := List.append_subset.mp hvars
      rw [renderElement, renderElement, h.items site hitems]
      cases site.items scope' items with
      | error err => exact .error rfl
      | ok values =>
          -- Both runs enter a round with the same frame, so that the rounds have the same texts.
          have hrounds : renderRounds (fun index item => do
                let result ← renderElements site
                  (scope.enter (loopFrame target item index values.length)) body
                pure result.1) 0 values =
              renderRounds (fun index item => do
                let result ← renderElements site
                  (scope'.enter (loopFrame target item index values.length)) body
                pure result.1) 0 values := by
            congr 1
            funext index item
            exact text_eq_of_agree (renderElements_agree body hbody hslots (h.enter (.refl names _)))
          show Alike _ _ (renderRounds _ 0 values >>= _) (renderRounds _ 0 values >>= _)
          rw [hrounds]
          cases renderRounds _ 0 values with
          | error err => exact .error rfl
          | ok text => exact .ok ⟨rfl, h.frame⟩
  | .assign name value, hvars, _, scope, scope', h => by
      rw [renderElement, renderElement, h.eval site hvars]
      cases site.eval scope' value with
      | error err => exact .error rfl
      | ok v => exact .ok ⟨rfl, h.frame.setField name v⟩
  | .slot name, _, hslots, scope, scope', h => by
      rw [renderElement, renderElement, hslots name List.mem_cons_self scope scope' h]
      cases site.slot scope' name with
      | error err => exact .error rfl
      | ok text => exact .ok ⟨rfl, h.frame⟩
theorem renderElements_agree : ∀ (es : List Element), variablesOf es ⊆ names →
    site.SlotsRead names (slots es) → ∀ {scope scope' : Scope}, scope.Agrees names scope' →
    Alike Eq (ResultsAgree names) (renderElements site scope es) (renderElements site scope' es)
  | [], _, _, _, _, h => .ok ⟨rfl, h.frame⟩
  | e :: rest, hvars, hslots, scope, scope', h => by
      obtain ⟨hfirst, hrest⟩ := List.append_subset.mp hvars
      obtain ⟨sfirst, srest⟩ := List.forall_mem_append.mp hslots
      rw [renderElements, renderElements]
      apply (renderElement_agree e hfirst sfirst h).bind
      rintro ⟨text, frame⟩ ⟨_, frame'⟩ ⟨rfl, hframe⟩
      apply (renderElements_agree rest hrest srest (h.withFrame hframe)).bind
      rintro ⟨more, last⟩ ⟨_, last'⟩ ⟨rfl, hlast⟩
      exact .ok ⟨rfl, hlast⟩
theorem renderBranches_agree : ∀ (branches : List (Expr × List Element)), branchVariables branches ⊆ names →
    site.SlotsRead names (branchSlots branches) → ∀ {scope scope' : Scope}, scope.Agrees names scope' →
    Alike Eq (Option.Rel (ResultsAgree names)) (renderBranches site scope branches)
      (renderBranches site scope' branches)
  | [], _, _, _, _, _ => .ok .none
  | (condition, body) :: rest, hvars, hslots, scope, scope', h => by
      obtain ⟨hbranch, hrest⟩ := List.append_subset.mp hvars
      obtain ⟨hcondition, hbody⟩ := List.append_subset.mp hbranch
      obtain ⟨sbody, srest⟩ := List.forall_mem_append.mp hslots
      rw [renderBranches, renderBranches, h.eval site hcondition]
      cases site.eval scope' condition with
      | error err => exact .error rfl
      | ok v =>
          show Alike _ _ (if v.truthy = true then _ else _) (if v.truthy = true then _ else _)
          by_cases htruthy : v.truthy = true
          · rw [if_pos htruthy, if_pos htruthy]
            apply (renderElements_agree body hbody sbody h).bind
            intro result result' hresult
            exact .ok (.some hresult)
          · rw [if_neg htruthy, if_neg htruthy]
            exact renderBranches_agree rest hrest srest h
end

end

/-! ### Composed templates -/

section
variable {r : Resolved}

theorem Resolved.body_variables_subset {name : String} {b : ResolvedBlock} (h : r.block? name = some b) :
    variablesOf b.body ⊆ r.varNames := by
  intro n hn
  have hmem : b ∈ r.blocks := List.mem_of_find?_eq_some h
  exact List.mem_append_right _ (List.mem_flatMap.mpr ⟨b, hmem, hn⟩)

/-- The text of a slot depends on the variables that the template names. The induction is on the blocks that
are not being rendered: inside the body of a block there is one less. -/
theorem renderSlot_congr (className : String) :
    ∀ (k : Nat) (active : List String), (idle r active).length = k → ∀ name scope scope',
      Scope.Agrees r.varNames scope scope' →
      renderSlot r className active scope name = renderSlot r className active scope' name := by
  intro k
  induction k using Nat.strong_induction_on with
  | _ k ih =>
      intro active hk name scope scope' h
      by_cases hmem : name ∈ active
      · rw [renderSlot_of_mem hmem, renderSlot_of_mem hmem]
      · cases hb : r.block? name with
        | none => rw [renderSlot_of_no_block hmem hb, renderSlot_of_no_block hmem hb]
        | some b =>
            have hless : (idle r (name :: active)).length < k := by
              rw [← hk]
              exact idle_cons_lt hb (by simpa using hmem)
            have hslots : (r.site className (name :: active)).SlotsRead r.varNames (slots b.body) :=
              fun inner _ => ih _ hless (name :: active) rfl inner
            have hbody := renderElements_agree b.body (Resolved.body_variables_subset hb) hslots
              (h.enter (.refl _ []))
            rw [renderSlot_of_block hmem hb, renderSlot_of_block hmem hb]
            exact text_eq_of_agree hbody

end

theorem render_congr {r : Resolved} {context context' : Frame}
    (h : FramesAgree r.varNames context context') (className : String) :
    render r className context = render r className context' := by
  have hscopes : Scope.Agrees r.varNames ⟨[], [context]⟩ ⟨[], [context']⟩ :=
    ⟨.refl _ [], .cons h .nil⟩
  have hslots : (r.site className []).SlotsRead r.varNames (slots r.layout) :=
    fun name _ => renderSlot_congr className _ [] rfl name
  exact text_eq_of_agree (renderElements_agree r.layout (List.subset_append_left _ _) hslots hscopes)

/-- Fields that are added to a context under other names leave the variables of some names as they are. -/
theorem framesAgree_foldl_setField {names : List String} {fields : List (String × Value)}
    (h : ∀ f ∈ fields, f.1 ∉ names) (context : Frame) :
    FramesAgree names (fields.foldl (fun c f => Value.setField f.1 f.2 c) context) context := by
  induction fields generalizing context with
  | nil => exact .refl names context
  | cons f fields ih =>
      obtain ⟨hf, hfields⟩ := List.forall_mem_cons.mp h
      intro name hname
      have hne : name ≠ f.1 := fun heq => hf (heq ▸ hname)
      rw [List.foldl_cons, ih hfields _ name hname, Value.field?_setField_of_ne hne]

/-- A rendering reads the variables that its template names and nothing else: in two contexts in which these
have the same values, or are missing alike, it gives the same text or the same error. So fields whose names
do not stand in the template can be added to a context and change nothing. -/
theorem render_reads (r : Resolved) (className : String) :
    (∀ context context' : Frame,
      (∀ name ∈ r.varNames, Value.field? context name = Value.field? context' name) →
      render r className context = render r className context') ∧
    ∀ (context : Frame) (fields : List (String × Value)), (∀ f ∈ fields, f.1 ∉ r.varNames) →
      render r className (fields.foldl (fun c f => Value.setField f.1 f.2 c) context) =
        render r className context := by
  refine ⟨fun context context' h => render_congr h className, fun context fields h => ?_⟩
  exact render_congr (framesAgree_foldl_setField h context) className

/-- A loop whose variable a block uses for something else. -/
def captioned : Resolved :=
  ⟨⟨"page", []⟩, [.loop "x" (.var "rows") [.output (.var "x")], .slot "caption"],
    [⟨"caption", "page", [.assign "x" (.attr (.var "page") "title"), .output (.var "x")]⟩]⟩

/-- A context for the captioned page. -/
def captionedContext : Frame :=
  [("page", .mapping [("title", .text "Rows")]), ("rows", .sequence [.text "a", .text "b"])]

/-- Neither a record of a loop around nor a note can be seen from the page. -/
theorem render_reads_captioned :
    (∀ name ∈ captioned.varNames, Value.field? (("loop", .none) :: captionedContext) name =
      Value.field? captionedContext name) ∧
    render captioned "Page" (("loop", .none) :: captionedContext) =
      render captioned "Page" captionedContext ∧
    (∀ f ∈ [("note", Value.text "draft")], f.1 ∉ captioned.varNames) ∧
    render captioned "Page" ([("note", Value.text "draft")].foldl (fun c f => Value.setField f.1 f.2 c)
      captionedContext) = render captioned "Page" captionedContext := by
  have hvars : captioned.varNames = ["rows", "x", "page", "x"] := rfl
  have hagree : ∀ name ∈ captioned.varNames, Value.field? (("loop", .none) :: captionedContext) name =
      Value.field? captionedContext name := by
    rw [hvars]
    simp only [List.forall_mem_cons]
    exact ⟨rfl, rfl, rfl, rfl, List.forall_mem_nil _⟩
  have hnew : ∀ f ∈ [("note", Value.text "draft")], f.1 ∉ captioned.varNames := by
    rw [List.forall_mem_singleton, hvars]
    decide
  obtain ⟨hreads, hadds⟩ := render_reads captioned "Page"
  exact ⟨hagree, hreads _ _ hagree, hnew, hadds _ _ hnew⟩

end Template
end ClassScribe
