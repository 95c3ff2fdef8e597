import ClassScribe.Proofs.Template.Course
import ClassScribe.Proofs.Template.Rewording

/-! # Renderings that are alike

A composed template and one with other texts are rendered side by side. If the texts agree in the characters
of some kind, then so do the renderings (`render_alike`): the same variables are assigned, the same branches
are taken, and one of them fails just where the other one does. -/

namespace ClassScribe.Template

/-- Two texts with the same characters of a kind. -/
def SameKept (keep : Char → Bool) (s t : String) : Prop := s.toList.filter keep = t.toList.filter keep

/-- A wording that leaves the characters of a kind as they are. -/
def Wording.Keeps (keep : Char → Bool) (word : Wording) : Prop :=
  ∀ s, SameKept keep s ((word s).getD "")

theorem SameKept.append {keep : Char → Bool} {s s' t t' : String} (hs : SameKept keep s s')
    (ht : SameKept keep t t') : SameKept keep (s ++ t) (s' ++ t') := by
  unfold SameKept at hs ht ⊢
  rw [String.toList_append, String.toList_append, List.filter_append, List.filter_append, hs, ht]

section
variable {errors : Error → Error → Prop} {keep : Char → Bool} {word : Wording}
  {site site' : Site} {scope : Scope}

/-! ### Elements in a row -/

theorem renderElements_append_bind (site : Site) (scope : Scope) (es fs : List Element) :
    renderElements site scope (es ++ fs) = renderElements site scope es >>= fun result =>
      (renderElements site { scope with frame := result.2 } fs).map fun more =>
        (result.1 ++ more.1, more.2) := by
  induction es generalizing scope with
  | nil =>
      show renderElements site scope fs =
        (renderElements site scope fs).map fun more => ("" ++ more.1, more.2)
      cases renderElements site scope fs with
      | error err => rfl
      | ok result =>
          show _ = Except.ok ("" ++ result.1, result.2)
          rw [String.empty_append]
  | cons e es ih =>
      rw [List.cons_append, renderElements, renderElements]
      cases renderElement site scope e with
      | error err => rfl
      | ok first =>
          show (renderElements site { scope with frame := first.2 } (es ++ fs) >>= fun result =>
            pure (first.1 ++ result.1, result.2)) = _
          rw [ih]
          show _ = (renderElements site { scope with frame := first.2 } es >>= fun result =>
            pure (first.1 ++ result.1, result.2)) >>= _
          cases renderElements site { scope with frame := first.2 } es with
          | error err => rfl
          | ok second =>
              show ((renderElements site { scope with frame := second.2 } fs).map _ >>= _) =
                (renderElements site { scope with frame := second.2 } fs).map _
              cases renderElements site { scope with frame := second.2 } fs with
              | error err => rfl
              | ok third =>
                  show Except.ok (first.1 ++ (second.1 ++ third.1), third.2) = _
                  rw [← String.append_assoc]
                  rfl

/-! ### Places -/

/-- Two places whose errors are related, and whose slots have texts with the same characters of a kind. -/
structure Site.Like (errors : Error → Error → Prop) (keep : Char → Bool) (site site' : Site) : Prop where
  fault : ∀ fault, errors (site.error fault) (site'.error fault)
  halt : ∀ halt, errors (.halted halt) (.halted halt)
  unexpanded : errors (.resolution site.template site.block .unexpandedSuper)
    (.resolution site'.template site'.block .unexpandedSuper)
  slot : ∀ scope name, Alike errors (SameKept keep) (site.slot scope name) (site'.slot scope name)

theorem Site.Like.eval (h : Site.Like errors keep site site') (scope : Scope) (e : Expr) :
    Alike errors Eq (site.eval scope e) (site'.eval scope e) := by
  unfold Site.eval
  cases e.eval scope.lookup with
  | ok v => exact .ok rfl
  | error stop =>
      cases stop with
      | error cause => exact .error (h.fault _)
      | halt halt => exact .error (h.halt halt)

theorem Site.Like.print (h : Site.Like errors keep site site') (scope : Scope) (e : Expr) :
    Alike errors Eq (site.print scope e) (site'.print scope e) := by
  apply (h.eval scope e).bind
  rintro v _ rfl
  cases v.display? with
  | some text => exact .ok rfl
  | none => exact .error (h.fault _)

theorem Site.Like.items (h : Site.Like errors keep site site') (scope : Scope) (e : Expr) :
    Alike errors Eq (site.items scope e) (site'.items scope e) := by
  apply (h.eval scope e).bind
  rintro v _ rfl
  cases v with
  | sequence values => exact .ok rfl
  | _ => exact .error (h.fault _)

/-! ### Elements -/

/-- Two texts with the same characters of a kind, and the same variables after them. -/
def SameResult (keep : Char → Bool) (r r' : String × Frame) : Prop :=
  SameKept keep r.1 r'.1 ∧ r.2 = r'.2

theorem renderRounds_alike {round round' : Nat → Value → Except Error String}
    (h : ∀ index item, Alike errors (SameKept keep) (round index item) (round' index item))
    (index : Nat) (values : List Value) :
    Alike errors (SameKept keep) (renderRounds round index values) (renderRounds round' index values) := by
  induction values generalizing index with
  | nil => exact .ok rfl
  | cons v values ih =>
      rw [renderRounds, renderRounds]
      apply (h index v).bind
      intro text text' htext
      apply (ih (index + 1)).bind
      intro more more' hmore
      exact .ok (htext.append hmore)

mutual
/-- An element is rendered as what stands in its place. -/
theorem renderElement_alike (h : Site.Like errors keep site site') (hword : word.Keeps keep) :
    ∀ (e : Element) (scope : Scope), Alike errors (SameResult keep) (renderElement site scope e)
      (renderElements site' scope (rewordElement word e))
  | .text s, scope => by
      have hs := hword s
      rw [rewordElement]
      cases hw : word s with
      | none =>
          rw [hw] at hs
          exact .ok ⟨hs, rfl⟩
      | some t =>
          rw [hw] at hs
          show Alike _ _ _ (renderElements site' scope [.text t])
          rw [renderElements_singleton]
          exact .ok ⟨hs, rfl⟩
  | .output e, scope => by
      rw [rewordElement, renderElements_singleton, renderElement, renderElement]
      apply (h.print scope e).bind
      rintro text _ rfl
      exact .ok ⟨rfl, rfl⟩
  | .super, scope => by
      rw [rewordElement, renderElements_singleton]
      exact .error h.unexpanded
  | .choice branches otherwise, scope => by
      rw [rewordElement, renderElements_singleton, renderElement, renderElement]
      apply (renderBranches_alike h hword branches scope).bind
      intro found found' hfound
      cases hfound with
      | none => exact renderElements_alike h hword otherwise scope
      | some hresult => exact .ok hresult
  | .loop target items body, scope => by
      rw [rewordElement, renderElements_singleton, renderElement, renderElement]
      apply (h.items scope items).bind
      rintro values _ rfl
      have hround (index : Nat) (item : Value) : Alike errors (SameKept keep)
          ((renderElements site (scope.enter (loopFrame target item index values.length)) body) >>=
            fun result => pure result.1)
          ((renderElements site' (scope.enter (loopFrame target item index values.length))
            (rewordElements word body)) >>= fun result => pure result.1) := by
        apply (renderElements_alike h hword body _).bind
        intro result result' hresult
        exact .ok hresult.1
      apply (renderRounds_alike hround 0 values).bind
      intro text text' htext
      exact .ok ⟨htext, rfl⟩
  | .assign name value, scope => by
      rw [rewordElement, renderElements_singleton, renderElement, renderElement]
      apply (h.eval scope value).bind
      rintro v _ rfl
      exact .ok ⟨rfl, rfl⟩
  | .slot name, scope => by
      rw [rewordElement, renderElements_singleton, renderElement, renderElement]
      apply (h.slot scope name).bind
      intro text text' htext
      exact .ok ⟨htext, rfl⟩
theorem renderElements_alike (h : Site.Like errors keep site site') (hword : word.Keeps keep) :
    ∀ (es : List Element) (scope : Scope), Alike errors (SameResult keep)
      (renderElements site scope es) (renderElements site' scope (rewordElements word es))
  | [], scope => .ok ⟨rfl, rfl⟩
  | e :: rest, scope => by
      rw [rewordElements, renderElements_append_bind, renderElements]
      apply (renderElement_alike h hword e scope).bind
      rintro ⟨text, frame⟩ ⟨text', _⟩ ⟨htext, rfl⟩
      apply (renderElements_alike h hword rest { scope with frame := frame }).bind
      rintro ⟨more, last⟩ ⟨more', _⟩ ⟨hmore, rfl⟩
      exact .ok ⟨htext.append hmore, rfl⟩
theorem renderBranches_alike (h : Site.Like errors keep site site') (hword : word.Keeps keep) :
    ∀ (branches : List (Expr × List Element)) (scope : Scope),
      Alike errors (Option.Rel (SameResult keep)) (renderBranches site scope branches)
        (renderBranches site' scope (rewordBranches word branches))
  | [], scope => .ok .none
  | (condition, body) :: rest, scope => by
      rw [rewordBranches, renderBranches, renderBranches]
      apply (h.eval scope condition).bind
      rintro v _ rfl
      split
      · apply (renderElements_alike h hword body scope).bind
        intro result result' hresult
        exact .ok (.some hresult)
      · exact renderBranches_alike h hword rest scope
end

end

/-! ### Composed templates -/

/-- A composed template that is another one with other texts, but for its name and for where its blocks
come from. -/
structure Resolved.Rewords (word : Wording) (r r' : Resolved) : Prop where
  layout : r'.layout = rewordElements word r.layout
  bodies : ∀ name,
    (r'.block? name).map (·.body) = (r.block? name).map fun b => rewordElements word b.body

/-- Errors of two composed templates at the same places. -/
structure Resolved.Blames (errors : Error → Error → Prop) (r r' : Resolved) : Prop where
  render : ∀ className block fault,
    errors (.render className r.name block fault) (.render className r'.name block fault)
  resolution : ∀ block fault, errors (.resolution r.name block fault) (.resolution r'.name block fault)
  halt : ∀ halt, errors (.halted halt) (.halted halt)

theorem Resolved.Rewords.reword (r : Resolved) (word : Wording) :
    Resolved.Rewords word r (r.reword word) := by
  constructor
  · rfl
  · intro name
    rw [Resolved.block?_reword, Option.map_map]
    rfl

section
variable {errors : Error → Error → Prop} {keep : Char → Bool} {word : Wording} {r r' : Resolved}

theorem Resolved.Blames.like (h : Resolved.Blames errors r r') {className : String}
    {active : List String} (hslot : ∀ scope name, Alike errors (SameKept keep)
      (renderSlot r className active scope name) (renderSlot r' className active scope name)) :
    Site.Like errors keep (r.site className active) (r'.site className active) :=
  ⟨fun fault => h.render _ _ fault, h.halt, h.resolution _ _, hslot⟩

/-- The slots of two composed templates are rendered alike. The induction is on the blocks that are not
being rendered: inside the body of a block there is one less. -/
theorem renderSlot_alike (hwords : Resolved.Rewords word r r') (hblames : Resolved.Blames errors r r')
    (hword : word.Keeps keep) (className : String) :
    ∀ (k : Nat) (active : List String), (idle r active).length = k → ∀ scope name,
      Alike errors (SameKept keep) (renderSlot r className active scope name)
        (renderSlot r' className active scope name) := by
  intro k
  induction k using Nat.strong_induction_on with
  | _ k ih =>
      intro active hk scope name
      by_cases hmem : name ∈ active
      · rw [renderSlot_of_mem hmem, renderSlot_of_mem hmem]
        exact .error (hblames.resolution _ _)
      · have hbody := hwords.bodies name
        cases hb : r.block? name with
        | none =>
            rw [hb, Option.map_none, Option.map_eq_none_iff] at hbody
            rw [renderSlot_of_no_block hmem hb, renderSlot_of_no_block hmem hbody]
            exact .ok rfl
        | some b =>
            rw [hb, Option.map_some] at hbody
            obtain ⟨b', hb', hbody'⟩ := Option.map_eq_some_iff.mp hbody
            rw [renderSlot_of_block hmem hb, renderSlot_of_block hmem hb', hbody']
            have hless : (idle r (name :: active)).length < k := by
              rw [← hk]
              exact idle_cons_lt hb (by simpa using hmem)
            have hsite := hblames.like (ih _ hless (name :: active) rfl)
            have hinner := renderElements_alike hsite hword b.body (scope.enter [])
            apply hinner.map
            intro result result' hresult
            exact hresult.1

/-- A composed template and the one with other texts are rendered alike. -/
theorem render_alike (hwords : Resolved.Rewords word r r') (hblames : Resolved.Blames errors r r')
    (hword : word.Keeps keep) (className : String) (context : Frame) :
    Alike errors (SameKept keep) (render r className context) (render r' className context) := by
  have hslot := renderSlot_alike hwords hblames hword className _ [] rfl
  have hlayout := renderElements_alike (hblames.like hslot) hword r.layout ⟨[], [context]⟩
  rw [← hwords.layout] at hlayout
  apply Alike.bind hlayout
  intro result result' hresult
  exact .ok hresult.1

end
end ClassScribe.Template
