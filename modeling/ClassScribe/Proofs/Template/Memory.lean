import Mathlib.Tactic.Common
import ClassScribe.Template.Inheritance

/-! # Composition without its memory

A body that is remembered is the body that inheritance gives. `Tracks` says that a computation with
a memory does what one without it does, as long as everything remembered is right (`Sound`); each
part of the composition tracks the part of the inheritance that it stands for, up to
`tracks_resolveBlock`. -/

namespace ClassScribe.Template

/-! ### Computations that agree up to a memory -/

/-- A computation with a memory does what one without it does, and keeps an invariant of it. -/
def Tracks {α : Type} (inv : Memory → Prop) (x : Remembering α) (y : Except Error α) : Prop :=
  ∀ memo, inv memo →
    match y with
    | .ok a => ∃ memo', x.run memo = .ok (a, memo') ∧ inv memo'
    | .error e => x.run memo = .error e

section
variable {α β : Type} {inv : Memory → Prop}

theorem tracks_pure (a : α) : Tracks inv (pure a) (.ok a) :=
  fun memo h => ⟨memo, rfl, h⟩

theorem tracks_throw (e : Error) : Tracks inv (throw e : Remembering α) (.error e) :=
  fun _ _ => rfl

theorem tracks_bind {x : Remembering α} {y : Except Error α} {f : α → Remembering β}
    {g : α → Except Error β} (hx : Tracks inv x y) (hf : ∀ a, Tracks inv (f a) (g a)) :
    Tracks inv (x >>= f) (y >>= g) := by
  intro memo h
  have hr := hx memo h
  cases y with
  | error e =>
      show (x >>= f).run memo = .error e
      rw [StateT.run_bind, hr]
      rfl
  | ok a =>
      obtain ⟨memo', hr, h'⟩ := hr
      have hg := hf a memo' h'
      rw [StateT.run_bind, hr]
      exact hg

theorem tracks_map {x : Remembering α} {y : Except Error α} (hx : Tracks inv x y) (f : α → β) :
    Tracks inv (x >>= fun a => pure (f a)) (y.map f) := by
  have h := tracks_bind hx fun a => tracks_pure (f a)
  cases y with
  | error e => exact h
  | ok a => exact h

theorem tracks_mapM {f : α → Remembering β} {g : α → Except Error β} {l : List α}
    (h : ∀ a, Tracks inv (f a) (g a)) : Tracks inv (l.mapM f) (l.mapM g) := by
  induction l with
  | nil => exact tracks_pure []
  | cons a l ih =>
      rw [List.mapM_cons, List.mapM_cons]
      refine tracks_bind (h a) fun b => ?_
      exact tracks_bind ih fun bs => tracks_pure (b :: bs)

theorem Tracks.run {x : Remembering α} {y : Except Error α} (hx : Tracks inv x y) {memo : Memory}
    (h : inv memo) : (do let (a, _) ← x.run memo; pure a) = y := by
  have hr := hx memo h
  cases y with
  | error e =>
      rw [show x.run memo = .error e from hr]
      rfl
  | ok a =>
      obtain ⟨memo', hr, -⟩ := hr
      rw [hr]
      rfl

theorem run_remember_of_some {key : Nat × String} {x : Remembering (List Element)} {memo : Memory}
    {found : List Element} (h : memo.lookup key = some found) :
    (remember key x).run memo = .ok (found, memo) := by
  unfold remember
  rw [StateT.run_bind, StateT.run_get, pure_bind, h]
  rfl

theorem run_remember_of_none {key : Nat × String} {x : Remembering (List Element)} {memo : Memory}
    (h : memo.lookup key = none) : (remember key x).run memo =
      x.run memo >>= fun r => .ok (r.1, (key, r.1) :: r.2) := by
  unfold remember
  rw [StateT.run_bind, StateT.run_get, pure_bind, h]
  rfl

/-- A body may be remembered if what is remembered is what it comes to. -/
theorem tracks_remember {key : Nat × String} {x : Remembering (List Element)}
    {y : Except Error (List Element)} (hx : Tracks inv x y)
    (hit : ∀ memo found, inv memo → memo.lookup key = some found → y = .ok found)
    (miss : ∀ memo made, inv memo → y = .ok made → inv ((key, made) :: memo)) :
    Tracks inv (remember key x) y := by
  intro memo h
  cases hl : memo.lookup key with
  | some found =>
      rw [run_remember_of_some hl, hit memo found h hl]
      exact ⟨memo, rfl, h⟩
  | none =>
      have hr := hx memo h
      rw [run_remember_of_none hl]
      cases y with
      | error e =>
          show (x.run memo >>= _) = .error e
          rw [hr]
          rfl
      | ok made =>
          obtain ⟨memo', hr, h'⟩ := hr
          refine ⟨(key, made) :: memo', ?_, miss memo' made h' rfl⟩
          rw [hr]
          rfl

end

/-! ### Replacing `super()` -/

section
variable {inv : Memory → Prop} {x : Remembering (List Element)} {y : Except Error (List Element)}

mutual
theorem tracks_expandElement (h : Tracks inv x y) :
    ∀ e, Tracks inv (expandElement x e) (expandElement y e)
  | .super => h
  | .choice branches otherwise =>
      tracks_bind (tracks_expandBranches h branches) fun b =>
        tracks_bind (tracks_expand h otherwise) fun o => tracks_pure [Element.choice b o]
  | .loop target items body =>
      tracks_bind (tracks_expand h body) fun b => tracks_pure [Element.loop target items b]
  | .text s => tracks_pure [Element.text s]
  | .output e => tracks_pure [Element.output e]
  | .assign name value => tracks_pure [Element.assign name value]
  | .slot name => tracks_pure [Element.slot name]
theorem tracks_expand (h : Tracks inv x y) : ∀ es, Tracks inv (expand x es) (expand y es)
  | [] => tracks_pure []
  | e :: rest =>
      tracks_bind (tracks_expandElement h e) fun e =>
        tracks_bind (tracks_expand h rest) fun rest => tracks_pure (e ++ rest)
theorem tracks_expandBranches (h : Tracks inv x y) :
    ∀ bs, Tracks inv (expandBranches x bs) (expandBranches y bs)
  | [] => tracks_pure []
  | (condition, body) :: rest =>
      tracks_bind (tracks_expand h body) fun body =>
        tracks_bind (tracks_expandBranches h rest) fun rest => tracks_pure ((condition, body) :: rest)
end

end

mutual
theorem spliceElement_of_not_callsSuper (body : List Element) :
    ∀ e, elementCallsSuper e = false → spliceElement body e = [e]
  | .super, h => by cases h
  | .choice branches otherwise, h => by
      obtain ⟨hb, ho⟩ := Bool.or_eq_false_iff.mp h
      rw [spliceElement, spliceBranches_of_not_callsSuper body branches hb,
        splice_of_not_callsSuper body otherwise ho]
  | .loop target items content, h => by
      rw [spliceElement, splice_of_not_callsSuper body content h]
  | .text _, _ | .output _, _ | .assign _ _, _ | .slot _, _ => rfl
theorem splice_of_not_callsSuper (body : List Element) :
    ∀ es, callsSuper es = false → splice body es = es
  | [], _ => rfl
  | e :: rest, h => by
      obtain ⟨he, hr⟩ := Bool.or_eq_false_iff.mp h
      rw [splice, spliceElement_of_not_callsSuper body e he, splice_of_not_callsSuper body rest hr]
      rfl
theorem spliceBranches_of_not_callsSuper (body : List Element) :
    ∀ bs, branchesCallSuper bs = false → spliceBranches body bs = bs
  | [], _ => rfl
  | (condition, content) :: rest, h => by
      obtain ⟨hc, hr⟩ := Bool.or_eq_false_iff.mp h
      rw [spliceBranches, splice_of_not_callsSuper body content hc,
        spliceBranches_of_not_callsSuper body rest hr]
end

mutual
theorem expandElement_ok (body : List Element) :
    ∀ e, expandElement (Except.ok body : Except Error _) e = .ok (spliceElement body e)
  | .super => rfl
  | .choice branches otherwise => by
      rw [expandElement, expandBranches_ok body branches, expand_ok body otherwise]
      rfl
  | .loop target items content => by
      rw [expandElement, expand_ok body content]
      rfl
  | .text _ | .output _ | .assign _ _ | .slot _ => rfl
theorem expand_ok (body : List Element) :
    ∀ es, expand (Except.ok body : Except Error _) es = .ok (splice body es)
  | [] => rfl
  | e :: rest => by
      rw [expand, expandElement_ok body e, expand_ok body rest]
      rfl
theorem expandBranches_ok (body : List Element) :
    ∀ bs, expandBranches (Except.ok body : Except Error _) bs = .ok (spliceBranches body bs)
  | [] => rfl
  | (condition, content) :: rest => by
      rw [expandBranches, expand_ok body content, expandBranches_ok body rest]
      rfl
end

mutual
theorem expandElement_error (f : Error) :
    ∀ e, expandElement (Except.error f) e = if elementCallsSuper e then .error f else .ok [e]
  | .super => rfl
  | .choice branches otherwise => by
      rw [expandElement, expandBranches_error f branches, expand_error f otherwise, elementCallsSuper]
      cases branchesCallSuper branches <;> cases callsSuper otherwise <;> rfl
  | .loop target items content => by
      rw [expandElement, expand_error f content, elementCallsSuper]
      cases callsSuper content <;> rfl
  | .text _ | .output _ | .assign _ _ | .slot _ => rfl
theorem expand_error (f : Error) :
    ∀ es, expand (Except.error f) es = if callsSuper es then .error f else .ok es
  | [] => rfl
  | e :: rest => by
      rw [expand, expandElement_error f e, expand_error f rest, callsSuper]
      cases elementCallsSuper e <;> cases callsSuper rest <;> rfl
theorem expandBranches_error (f : Error) :
    ∀ bs, expandBranches (Except.error f) bs = if branchesCallSuper bs then .error f else .ok bs
  | [] => rfl
  | (condition, content) :: rest => by
      rw [expandBranches, expand_error f content, expandBranches_error f rest, branchesCallSuper]
      cases callsSuper content <;> cases branchesCallSuper rest <;> rfl
end

/-- Replacing every `super()` asks for the body below only if there is one. -/
theorem expand_eq (y : Except Error (List Element)) (es : List Element) :
    expand y es = if callsSuper es then y.map (splice · es) else .ok es := by
  cases y with
  | error e => exact expand_error e es
  | ok body =>
      rw [expand_ok]
      cases h : callsSuper es with
      | true => rfl
      | false =>
          rw [splice_of_not_callsSuper body es h]
          rfl

/-! ### Bodies of definitions -/

/-- Everything remembered is the body that a block has in the layers from its own one down. -/
def Sound (down : List Template) (memo : Memory) : Prop :=
  ∀ t lower, (t :: lower) <:+ down → ∀ name body,
    memo.lookup (lower.length, name) = some body → inheritedBody name t.name (t :: lower) = .ok body

theorem sound_nil (down : List Template) : Sound down [] := by
  intro t lower _ name body h
  cases h

/-- The number of the layers below one tells which layer it is. -/
theorem Sound.cons {down : List Template} {memo : Memory} (h : Sound down memo) {t : Template}
    {lower : List Template} (hs : (t :: lower) <:+ down) {name : String} {body : List Element}
    (hb : inheritedBody name t.name (t :: lower) = .ok body) :
    Sound down (((lower.length, name), body) :: memo) := by
  intro u rest hu key found hl
  rw [List.lookup_cons] at hl
  by_cases hk : (rest.length, key) = (lower.length, name)
  · rw [hk, beq_self_eq_true] at hl
    obtain ⟨hlen, rfl⟩ := Prod.mk.inj hk
    have hsuf : (u :: rest) <:+ (t :: lower) :=
      List.suffix_of_suffix_length_le hu hs (by simp [hlen])
    obtain ⟨rfl, rfl⟩ := List.cons.inj (hsuf.eq_of_length (by simp [hlen]))
    cases hl
    exact hb
  · rw [beq_false_of_ne hk] at hl
    exact h u rest hu key found hl

theorem block?_name {t : Template} {name : String} {b : Block} (h : t.block? name = some b) :
    b.name = name := by
  have hp := List.find?_some (p := fun c : Block => c.name == name) h
  exact eq_of_beq hp

theorem inheritedBody_of_definitions_nil {name : String} (above : String) :
    ∀ layers, definitions name layers = [] →
      inheritedBody name above layers = .error (.resolution above (some name) .noSuper)
  | [], _ => rfl
  | t :: lower, h => by
      rw [definitions] at h
      cases hb : t.block? name with
      | some b =>
          rw [hb] at h
          cases h
      | none =>
          rw [hb] at h
          rw [inheritedBody, hb]
          exact inheritedBody_of_definitions_nil above lower h

/-- The body of a definition is the inherited one. The induction is on the layers from the one of
the definition down, and the layer `above` matters only as long as no definition is found. -/
theorem tracks_bodyOf {down : List Template} {name : String} :
    ∀ layers above d below, layers <:+ down → definitions name layers = d :: below →
      Tracks (Sound down) (bodyOf d below) (inheritedBody name above layers)
  | [], _, _, _, _, h => by cases h
  | t :: lower, above, d, below, hs, h => by
      have hlower : lower <:+ down := (List.suffix_cons t lower).trans hs
      rw [definitions] at h
      cases hb : t.block? name with
      | none =>
          rw [hb] at h
          rw [inheritedBody, hb]
          exact tracks_bodyOf lower above d below hlower h
      | some b =>
          rw [hb] at h
          obtain ⟨rfl, rfl⟩ := List.cons.inj h
          have hbody : ∀ a, inheritedBody name a (t :: lower) =
              expand (inheritedBody name t.name lower) b.body := by
            intro a
            rw [expand_eq, inheritedBody, hb]
          have hkept : ∀ x, Tracks (Sound down) x (inheritedBody name t.name lower) →
              Tracks (Sound down) (remember (lower.length, b.name) (expand x b.body))
                (inheritedBody name above (t :: lower)) := by
            intro x hx
            rw [hbody above, block?_name hb]
            refine tracks_remember (tracks_expand hx b.body) ?_ ?_
            · intro memo found hm hl
              rw [← hbody t.name]
              exact hm t lower hs name found hl
            · intro memo made hm hmade
              exact hm.cons hs ((hbody t.name).trans hmade)
          cases hd : definitions name lower with
          | nil =>
              refine hkept (throw _) ?_
              rw [inheritedBody_of_definitions_nil t.name lower hd, ← block?_name hb]
              exact tracks_throw _
          | cons next more =>
              exact hkept (bodyOf next more) (tracks_bodyOf lower t.name next more hlower hd)

/-- The block of a name is the inherited one. -/
theorem tracks_resolveBlock {down : List Template} (leaf name : String) :
    ∀ layers, layers <:+ down →
      Tracks (Sound down) (resolveBlock leaf layers.reverse name) (inheritedBlock leaf name layers)
  | [], _ => tracks_throw _
  | t :: lower, hs => by
      have ih := tracks_resolveBlock leaf name lower ((List.suffix_cons t lower).trans hs)
      unfold resolveBlock at ih ⊢
      rw [List.reverse_reverse] at ih ⊢
      rw [definitions, inheritedBlock]
      cases hb : t.block? name with
      | none => exact ih
      | some b =>
          dsimp only
          by_cases hr : b.required = true
          · rw [List.dropWhile_cons_of_pos (by exact hr), if_pos hr]
            exact ih
          · rw [List.dropWhile_cons_of_neg (by exact hr), if_neg hr]
            refine tracks_map (tracks_bodyOf (t :: lower) t.name _ _ hs ?_) _
            rw [definitions, hb]

end ClassScribe.Template
