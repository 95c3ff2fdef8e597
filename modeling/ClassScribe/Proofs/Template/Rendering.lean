import Mathlib.Data.List.Nodup
import ClassScribe.Proofs.Template.Course

/-! # Rendering piece by piece

How the text of elements is made up of the texts of their pieces. `Prints` says that elements have a
text in a scope and leave the variables alone; there is a rule for each element, and one for elements
in a row. What a variable stands for behind a loop, a block or an assignment is told by what it stood
for before. -/

namespace ClassScribe

/-! ### Fields -/

namespace Value

theorem field?_setField_self (k : String) (v : Value) (l : List (String × Value)) :
    field? (setField k v l) k = some v := by
  unfold field?
  induction l with
  | nil => simp [setField]
  | cons f l ih =>
      unfold setField
      by_cases hk : k = f.1
      · rw [if_pos hk]
        simp
      · rw [if_neg hk]
        by_cases hlt : k < f.1
        · rw [if_pos hlt]
          simp
        · rw [if_neg hlt, List.lookup_cons, beq_false_of_ne hk]
          exact ih

theorem field?_setField_of_ne {k j : String} (h : j ≠ k) (v : Value) (l : List (String × Value)) :
    field? (setField k v l) j = field? l j := by
  unfold field?
  induction l with
  | nil => simp [setField, h]
  | cons f l ih =>
      obtain ⟨i, u⟩ := f
      unfold setField
      by_cases hk : k = i
      · subst hk
        rw [if_pos rfl, List.lookup_cons, List.lookup_cons, beq_false_of_ne h]
      · rw [if_neg hk]
        by_cases hlt : k < i
        · rw [if_pos hlt, List.lookup_cons, beq_false_of_ne h]
        · rw [if_neg hlt, List.lookup_cons, List.lookup_cons, ih]

theorem field?_ofFields (fields : List (String × Value)) (key : String) :
    field? (ofFields fields) key = fields.reverse.lookup key := by
  unfold ofFields
  rw [← List.foldr_reverse]
  induction fields.reverse with
  | nil => rfl
  | cons f fields ih =>
      rw [List.foldr_cons]
      by_cases hk : key = f.1
      · rw [hk, field?_setField_self, List.lookup_cons, beq_self_eq_true]
      · rw [field?_setField_of_ne hk, ih, List.lookup_cons, beq_false_of_ne hk]

theorem field?_ofFields_of_mem {fields : List (String × Value)} {key : String} {v : Value}
    (hn : (fields.map (·.1)).Nodup) (h : (key, v) ∈ fields) :
    field? (ofFields fields) key = some v := by
  rw [field?_ofFields]
  have hn' : (fields.reverse.map (·.1)).Nodup := by
    rw [List.map_reverse]
    exact List.nodup_reverse.mpr hn
  have h' : (key, v) ∈ fields.reverse := List.mem_reverse.mpr h
  generalize fields.reverse = l at hn' h'
  induction l with
  | nil => exact absurd h' List.not_mem_nil
  | cons f l ih =>
      rw [List.map_cons, List.nodup_cons] at hn'
      rw [List.lookup_cons]
      rcases List.mem_cons.mp h' with rfl | hmem
      · rw [beq_self_eq_true]
      · have hne : key ≠ f.1 := by
          intro heq
          exact hn'.1 (List.mem_map.mpr ⟨(key, v), hmem, heq⟩)
        rw [beq_false_of_ne hne]
        exact ih hn'.2 hmem

end Value

namespace Template
open Value (field? setField field?_setField_self field?_setField_of_ne field?_ofFields
  field?_ofFields_of_mem)

/-! ### Variables -/

namespace Scope
variable {scope : Scope} {name target : String} {item : Value} {k n : Nat}

theorem lookup_enter (frame : Frame) :
    (scope.enter frame).lookup name = (field? frame name).or (scope.lookup name) := by
  unfold lookup enter
  rw [List.findSome?_cons]
  cases field? frame name with
  | none => rfl
  | some v => rfl

theorem lookup_target (h : target ≠ "loop") :
    (scope.enter (loopFrame target item k n)).lookup target = some item := by
  rw [lookup_enter, loopFrame, field?_ofFields_of_mem (v := item) (by simpa using h) (by simp)]
  rfl

theorem lookup_loop :
    (scope.enter (loopFrame target item k n)).lookup "loop" = some (loopInfo k n) := by
  rw [lookup_enter, loopFrame, field?_ofFields]
  rfl

theorem lookup_loop_of_ne (ht : name ≠ target) (hl : name ≠ "loop") :
    (scope.enter (loopFrame target item k n)).lookup name = scope.lookup name := by
  rw [lookup_enter, loopFrame, field?_ofFields]
  show (List.lookup name [("loop", loopInfo k n), (target, item)]).or _ = _
  rw [List.lookup_cons, beq_false_of_ne hl, List.lookup_cons, beq_false_of_ne ht]
  rfl

theorem lookup_assign_self (v : Value) (frame : Frame) (outer : List Frame) :
    (Scope.mk (setField name v frame) outer).lookup name = some v := by
  unfold lookup
  rw [List.findSome?_cons, field?_setField_self]

theorem lookup_assign_of_ne (h : name ≠ target) (v : Value) (frame : Frame) (outer : List Frame) :
    (Scope.mk (setField target v frame) outer).lookup name = (Scope.mk frame outer).lookup name := by
  unfold lookup
  rw [List.findSome?_cons, List.findSome?_cons, field?_setField_of_ne h]

theorem lookup_context {fields : List (String × Value)} {v : Value}
    (hn : (fields.map (·.1)).Nodup) (h : (name, v) ∈ fields) :
    (Scope.mk [] [Value.ofFields fields]).lookup name = some v := by
  unfold lookup
  rw [List.findSome?_cons, List.findSome?_cons, field?_ofFields_of_mem hn h]
  rfl

end Scope

/-! ### Elements -/

/-- Elements have a text in a scope and leave the variables as they are. -/
def Prints (site : Site) (scope : Scope) (es : List Element) (text : String) : Prop :=
  renderElements site scope es = .ok (text, scope.frame)

section
variable {site : Site} {scope : Scope}

theorem renderElements_cons {e : Element} {rest : List Element} {s t : String} {f g : Frame}
    (he : renderElement site scope e = .ok (s, f))
    (hr : renderElements site { scope with frame := f } rest = .ok (t, g)) :
    renderElements site scope (e :: rest) = .ok (s ++ t, g) := by
  show (renderElement site scope e >>= _) = _
  rw [he]
  show (renderElements site { scope with frame := f } rest >>= fun r => pure (s ++ r.1, r.2)) = _
  rw [hr]
  rfl

theorem Prints.of_eq {es : List Element} {s t : String} (h : Prints site scope es s) (ht : s = t) :
    Prints site scope es t := by
  rw [← ht]
  exact h

theorem prints_nil : Prints site scope [] "" := rfl

theorem prints_cons {e : Element} {rest : List Element} {s t : String}
    (he : renderElement site scope e = .ok (s, scope.frame)) (hr : Prints site scope rest t) :
    Prints site scope (e :: rest) (s ++ t) :=
  renderElements_cons he hr

theorem renderElements_append {es fs : List Element} {s t : String} {f g : Frame}
    (he : renderElements site scope es = .ok (s, f))
    (hf : renderElements site { scope with frame := f } fs = .ok (t, g)) :
    renderElements site scope (es ++ fs) = .ok (s ++ t, g) := by
  induction es generalizing scope s with
  | nil =>
      cases (he : Except.ok ("", scope.frame) = .ok (s, f))
      rw [String.empty_append]
      exact hf
  | cons e es ih =>
      change (renderElement site scope e >>= _) = _ at he
      obtain ⟨⟨s₁, f₁⟩, h₁, he⟩ := bind_eq_ok.mp he
      obtain ⟨⟨s₂, f₂⟩, h₂, he⟩ := bind_eq_ok.mp he
      cases he
      rw [String.append_assoc]
      exact renderElements_cons h₁ (ih h₂ hf)

theorem prints_text {rest : List Element} {t : String} (s : String) (hr : Prints site scope rest t) :
    Prints site scope (.text s :: rest) (s ++ t) :=
  prints_cons rfl hr

theorem site_eval {e : Expr} {v : Value} (h : e.eval scope.lookup = .ok v) :
    site.eval scope e = .ok v := by
  unfold Site.eval
  rw [h]

theorem prints_output {e : Expr} {v : Value} {rest : List Element} {s t : String}
    (he : e.eval scope.lookup = .ok v) (hv : v.display? = some s) (hr : Prints site scope rest t) :
    Prints site scope (.output e :: rest) (s ++ t) := by
  have hp : site.print scope e = .ok s := by
    unfold Site.print
    rw [site_eval he]
    dsimp only [bind, Except.bind]
    rw [hv]
  refine prints_cons ?_ hr
  show (site.print scope e >>= _) = _
  rw [hp]
  rfl

theorem prints_choice {condition : Expr} {v : Value} {body otherwise rest : List Element} {s t : String}
    (hc : condition.eval scope.lookup = .ok v)
    (hb : Prints site scope (if v.truthy then body else otherwise) s)
    (hr : Prints site scope rest t) :
    Prints site scope (.choice [(condition, body)] otherwise :: rest) (s ++ t) := by
  refine prints_cons ?_ hr
  show ((site.eval scope condition >>= _) >>= _) = _
  rw [site_eval hc]
  show (if v.truthy = true then _ else _ : Except Error (Option (String × Frame))) >>= _ = _
  unfold Prints at hb
  by_cases hv : v.truthy = true
  · rw [if_pos hv] at hb ⊢
    rw [hb]
    rfl
  · rw [if_neg hv] at hb ⊢
    exact hb

theorem prints_slot {name : String} {rest : List Element} {s t : String}
    (hs : site.slot scope name = .ok s) (hr : Prints site scope rest t) :
    Prints site scope (.slot name :: rest) (s ++ t) := by
  refine prints_cons ?_ hr
  show (site.slot scope name >>= _) = _
  rw [hs]
  rfl

theorem renderElements_assign {name : String} {value : Expr} {v : Value} {rest : List Element}
    {t : String} {f : Frame} (hv : value.eval scope.lookup = .ok v)
    (hr : renderElements site { scope with frame := Value.setField name v scope.frame } rest =
      .ok (t, f)) :
    renderElements site scope (.assign name value :: rest) = .ok (t, f) := by
  have he : renderElement site scope (.assign name value) =
      .ok ("", Value.setField name v scope.frame) := by
    show (site.eval scope value >>= _) = _
    rw [site_eval hv]
    rfl
  rw [renderElements_cons he hr, String.empty_append]

/-! ### Loops -/

theorem renderRounds_eq {α : Type} {round : Nat → Value → Except Error String} {f : α → Value}
    (text : Nat → α → String) : ∀ (l : List α) (start : Nat),
      (∀ k a, l[k]? = some a → round (start + k) (f a) = .ok (text (start + k) a)) →
      renderRounds round start (l.map f) =
        .ok (String.join (l.mapIdx fun k a => text (start + k) a))
  | [], _, _ => rfl
  | a :: l, start, h => by
      have hrest := renderRounds_eq text l (start + 1) (by
        intro k b hb
        rw [Nat.add_assoc, Nat.add_comm 1 k]
        exact h (k + 1) b hb)
      have hfirst : round start (f a) = .ok (text start a) := h 0 a rfl
      rw [List.map_cons, renderRounds, hfirst, hrest, List.mapIdx_cons, String.join_cons]
      show Except.ok _ = _
      simp only [Nat.add_zero, Nat.add_assoc, Nat.add_comm 1]

/-- A loop prints its rounds one after the other, whatever happens to the variables in them. -/
theorem prints_rounds {α : Type} {target : String} {items : Expr} {body rest : List Element} {t : String}
    {l : List α} {f : α → Value} (text : Nat → α → String)
    (hi : items.eval scope.lookup = .ok (.sequence (l.map f)))
    (hb : ∀ k a, l[k]? = some a →
      ∃ frame, renderElements site (scope.enter (loopFrame target (f a) k l.length)) body =
        .ok (text k a, frame))
    (hr : Prints site scope rest t) :
    Prints site scope (.loop target items body :: rest) (String.join (l.mapIdx text) ++ t) := by
  refine prints_cons ?_ hr
  have hitems : site.items scope items = .ok (l.map f) := by
    unfold Site.items
    rw [site_eval hi]
    rfl
  show (site.items scope items >>= _) = _
  rw [hitems]
  show (renderRounds _ 0 (l.map f) >>= fun text => pure (text, scope.frame)) = _
  rw [renderRounds_eq text l 0 ?_]
  · simp only [Nat.zero_add]
    rfl
  · intro k a ha
    obtain ⟨frame, hf⟩ := hb k a ha
    rw [Nat.zero_add, List.length_map, hf]
    rfl

theorem prints_loop {α : Type} {target : String} {items : Expr} {body rest : List Element} {t : String}
    {l : List α} {f : α → Value} (text : α → String)
    (hi : items.eval scope.lookup = .ok (.sequence (l.map f)))
    (hb : ∀ k, ∀ a ∈ l, ∃ frame,
      renderElements site (scope.enter (loopFrame target (f a) k l.length)) body = .ok (text a, frame))
    (hr : Prints site scope rest t) :
    Prints site scope (.loop target items body :: rest) (String.join (l.map text) ++ t) := by
  have hconst : l.mapIdx (fun _ a => text a) = l.map text :=
    List.mapIdx_eq_iff.mpr fun i => by simp
  rw [← hconst]
  exact prints_rounds (fun _ a => text a) hi (fun k a ha => hb k a (List.mem_of_getElem? ha)) hr

end

/-! ### Blocks -/

/-- The slot of a block that is not being rendered has the text of the body, in a frame of its own. -/
theorem renderSlot_eq {t : Resolved} {className : String} {active : List String} {scope : Scope}
    {name : String} {b : ResolvedBlock} {text : String} (hn : active.contains name = false)
    (hb : t.block? name = some b)
    (hp : Prints ⟨className, t.name, some name, renderSlot t className (name :: active)⟩
      (scope.enter []) b.body text) :
    renderSlot t className active scope name = .ok text := by
  rw [renderSlot_of_block (by simpa using hn) hb]
  exact map_eq_ok.mpr ⟨_, hp, rfl⟩

theorem render_eq {t : Resolved} {className : String} {context : Frame} {text : String}
    (hp : Prints ⟨className, t.name, none, renderSlot t className []⟩ ⟨[], [context]⟩ t.layout text) :
    render t className context = .ok text := by
  unfold Prints at hp
  rw [render, hp]
  rfl

end Template
end ClassScribe
