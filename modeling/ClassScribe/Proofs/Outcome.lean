import Mathlib.Tactic.Common
import Mathlib.Data.List.Forall2

/-! # Computations that can fail

When a sequence of computations succeeds, with which results, and when it fails. -/

namespace ClassScribe

section
variable {α β ε : Type}

/-- What a computation followed by another one comes to. -/
theorem bind_eq_ok {x : Except ε α} {f : α → Except ε β} {b : β} :
    (x >>= f) = .ok b ↔ ∃ a, x = .ok a ∧ f a = .ok b := by
  cases x with
  | error e =>
      constructor
      · intro h
        cases h
      · rintro ⟨a, ha, -⟩
        cases ha
  | ok a =>
      constructor
      · intro h
        exact ⟨a, rfl, h⟩
      · rintro ⟨a', ha, h⟩
        cases ha
        exact h

theorem bind_eq_error {x : Except ε α} {f : α → Except ε β} {e : ε} :
    (x >>= f) = .error e ↔ x = .error e ∨ ∃ a, x = .ok a ∧ f a = .error e := by
  cases x with
  | error e' =>
      constructor
      · intro h
        cases h
        exact .inl rfl
      · rintro (h | ⟨a, ha, -⟩)
        · cases h
          rfl
        · cases ha
  | ok a =>
      constructor
      · intro h
        exact .inr ⟨a, rfl, h⟩
      · rintro (h | ⟨a', ha, h⟩)
        · cases h
        · cases ha
          exact h

theorem map_eq_ok {x : Except ε α} {f : α → β} {b : β} :
    x.map f = .ok b ↔ ∃ a, x = .ok a ∧ f a = b := by
  cases x with
  | error e => simp [Except.map]
  | ok a => simp [Except.map]

theorem map_eq_error {x : Except ε α} {f : α → β} {e : ε} : x.map f = .error e ↔ x = .error e := by
  cases x with
  | error e => simp [Except.map]
  | ok a => simp [Except.map]

theorem mapError_eq_ok {ε' : Type} {x : Except ε α} {f : ε → ε'} {a : α} :
    x.mapError f = .ok a ↔ x = .ok a := by
  cases x with
  | error e => simp [Except.mapError]
  | ok b => simp [Except.mapError]

/-- An injective change of the errors loses nothing. -/
theorem mapError_inj {ε' : Type} {x y : Except ε α} {f : ε → ε'} (hf : ∀ d e, f d = f e → d = e) :
    x.mapError f = y.mapError f ↔ x = y := by
  constructor
  · intro h
    cases x with
    | ok a =>
        cases y with
        | ok b => exact congrArg Except.ok (Except.ok.inj h)
        | error e => cases h
    | error d =>
        cases y with
        | ok b => cases h
        | error e => exact congrArg Except.error (hf d e (Except.error.inj h))
  · exact congrArg _

/-- A computation with a changed result, followed by one that takes the change along. -/
theorem bind_map_result {γ δ : Type} {x : Except ε α} {change : α → β} {f : α → Except ε γ}
    {g : β → Except ε δ} {change' : γ → δ} (h : ∀ a, g (change a) = (f a).map change') :
    (x.map change >>= g) = (x >>= f).map change' := by
  cases x with
  | error e => rfl
  | ok a => exact h a

theorem mapM_eq_ok {f : α → Except ε β} {l : List α} {r : List β} :
    l.mapM f = .ok r ↔ List.Forall₂ (fun a b => f a = .ok b) l r := by
  induction l generalizing r with
  | nil => cases r <;> simp [pure, Except.pure]
  | cons a l ih =>
      rw [List.mapM_cons, bind_eq_ok]
      constructor
      · rintro ⟨b, hb, h⟩
        obtain ⟨bs, hbs, h⟩ := bind_eq_ok.mp h
        cases h
        exact .cons hb (ih.mp hbs)
      · rintro (_ | ⟨hb, hr⟩)
        exact ⟨_, hb, bind_eq_ok.mpr ⟨_, ih.mpr hr, rfl⟩⟩

theorem mapM_ok_iff {f : α → Except ε β} {l : List α} :
    (∃ r, l.mapM f = .ok r) ↔ ∀ a ∈ l, ∃ b, f a = .ok b := by
  simp only [mapM_eq_ok]
  induction l with
  | nil => simp
  | cons a l ih =>
      rw [List.forall_mem_cons, ← ih]
      constructor
      · rintro ⟨_, _ | ⟨hb, hr⟩⟩
        exact ⟨⟨_, hb⟩, _, hr⟩
      · rintro ⟨⟨b, hb⟩, r, hr⟩
        exact ⟨b :: r, .cons hb hr⟩

theorem exists_of_mem_mapM {f : α → Except ε β} {l : List α} {r : List β} (h : l.mapM f = .ok r)
    {b : β} (hb : b ∈ r) : ∃ a ∈ l, f a = .ok b := by
  have hall := mapM_eq_ok.mp h
  clear h
  induction hall with
  | nil => cases hb
  | cons hr _ ih =>
      rcases List.mem_cons.mp hb with rfl | hb
      · exact ⟨_, List.mem_cons_self, hr⟩
      · obtain ⟨a, ha, h⟩ := ih hb
        exact ⟨a, List.mem_cons_of_mem _ ha, h⟩

theorem exists_of_mapM_error {f : α → Except ε β} {l : List α} {e : ε} (h : l.mapM f = .error e) :
    ∃ a ∈ l, f a = .error e := by
  induction l with
  | nil => cases h
  | cons a l ih =>
      rw [List.mapM_cons, bind_eq_error] at h
      rcases h with h | ⟨b, -, h⟩
      · exact ⟨a, List.mem_cons_self, h⟩
      · rcases bind_eq_error.mp h with h | ⟨bs, -, h⟩
        · obtain ⟨c, hc, h⟩ := ih h
          exact ⟨c, List.mem_cons_of_mem _ hc, h⟩
        · cases h

/-- If a sequence of computations succeeds, then so does one whose computations have results that are
related to the ones of the first. -/
theorem exists_mapM_forall₂ {γ : Type} {f : α → Except ε β} {g : α → Except ε γ} {related : β → γ → Prop}
    (h : ∀ a b, f a = .ok b → ∃ c, g a = .ok c ∧ related b c) {l : List α} {r : List β}
    (hl : l.mapM f = .ok r) : ∃ s, l.mapM g = .ok s ∧ List.Forall₂ related r s := by
  have hall := mapM_eq_ok.mp hl
  clear hl
  induction hall with
  | nil => exact ⟨[], rfl, .nil⟩
  | cons hb _ ih =>
      obtain ⟨c, hc, hrelated⟩ := h _ _ hb
      obtain ⟨s, hs, hmore⟩ := ih
      exact ⟨c :: s, mapM_eq_ok.mpr (.cons hc (mapM_eq_ok.mp hs)), .cons hrelated hmore⟩

theorem error_iff {x : Except ε α} : (∃ e, x = .error e) ↔ ¬∃ a, x = .ok a := by
  cases x with
  | error e => simp
  | ok a => simp

end

/-! ### Two computations -/

/-- Two computations that both succeed, with results that are related, or both fail, with errors that are
related. -/
inductive Alike {α α' ε ε' : Type} (errors : ε → ε' → Prop) (results : α → α' → Prop) :
    Except ε α → Except ε' α' → Prop
  | ok {a : α} {a' : α'} (h : results a a') : Alike errors results (.ok a) (.ok a')
  | error {e : ε} {e' : ε'} (h : errors e e') : Alike errors results (.error e) (.error e')

namespace Alike

section
variable {α α' α'' β β' ε ε' ε'' : Type} {errors : ε → ε' → Prop} {results : α → α' → Prop}
  {x : Except ε α} {x' : Except ε' α'}

theorem cases_eq (h : Alike errors results x x') :
    (∃ a a', x = .ok a ∧ x' = .ok a' ∧ results a a') ∨
      ∃ e e', x = .error e ∧ x' = .error e' ∧ errors e e' := by
  cases h with
  | ok ha => exact .inl ⟨_, _, rfl, rfl, ha⟩
  | error he => exact .inr ⟨_, _, rfl, rfl, he⟩

theorem mono {results' : α → α' → Prop} (h : Alike errors results x x')
    (hr : ∀ a a', results a a' → results' a a') : Alike errors results' x x' := by
  cases h with
  | ok ha => exact .ok (hr _ _ ha)
  | error he => exact .error he

theorem bind {results' : β → β' → Prop} {f : α → Except ε β} {f' : α' → Except ε' β'}
    (h : Alike errors results x x') (hf : ∀ a a', results a a' → Alike errors results' (f a) (f' a')) :
    Alike errors results' (x >>= f) (x' >>= f') := by
  cases h with
  | ok hr => exact hf _ _ hr
  | error he => exact .error he

theorem map {results' : β → β' → Prop} {f : α → β} {f' : α' → β'} (h : Alike errors results x x')
    (hf : ∀ a a', results a a' → results' (f a) (f' a')) :
    Alike errors results' (x.map f) (x'.map f') := by
  cases h with
  | ok hr => exact .ok (hf _ _ hr)
  | error he => exact .error he

theorem mapM {γ : Type} {results : β → β' → Prop} {f : γ → Except ε β} {f' : γ → Except ε' β'}
    (h : ∀ c, Alike errors results (f c) (f' c)) (l : List γ) :
    Alike errors (List.Forall₂ results) (l.mapM f) (l.mapM f') := by
  induction l with
  | nil => exact .ok .nil
  | cons c l ih =>
      rw [List.mapM_cons, List.mapM_cons]
      exact (h c).bind fun _ _ hfirst => ih.bind fun _ _ hrest => .ok (.cons hfirst hrest)

theorem join {errors' : ε'' → ε' → Prop} {results' : α'' → α' → Prop} {errors'' : ε → ε'' → Prop}
    {results'' : α → α'' → Prop} {y : Except ε'' α''} (h : Alike errors results x x')
    (h' : Alike errors' results' y x') (he : ∀ e d e', errors e e' → errors' d e' → errors'' e d)
    (hr : ∀ a b a', results a a' → results' b a' → results'' a b) : Alike errors'' results'' x y := by
  cases h with
  | ok ha =>
      cases h' with
      | ok hb => exact .ok (hr _ _ _ ha hb)
  | error hd =>
      cases h' with
      | error hd' => exact .error (he _ _ _ hd hd')

/-- Two computations are alike, whatever their errors, if one of them succeeds just where the other does. -/
theorem of_ok {x : Except ε α} {x' : Except ε' α'}
    (h : ∀ a, x = .ok a → ∃ a', x' = .ok a' ∧ results a a')
    (h' : ∀ a', x' = .ok a' → ∃ a, x = .ok a) : Alike (fun _ _ => True) results x x' := by
  cases x with
  | ok a =>
      obtain ⟨a', rfl, ha⟩ := h a rfl
      exact .ok ha
  | error e =>
      cases x' with
      | ok a' =>
          obtain ⟨a, ha⟩ := h' a' rfl
          cases ha
      | error e' => exact .error trivial

/-- A computation that fails with the same error, and has the changed result, comes to the changed one. -/
theorem map_eq {y : Except ε β} {change : α → β} (h : Alike Eq (fun a b => b = change a) x y) :
    y = x.map change := by
  cases h with
  | ok hb => exact congrArg Except.ok hb
  | error he => exact congrArg Except.error he.symm

/-- Two computations with the same change of their results come to the same. -/
theorem of_map_eq {x y : Except ε α} {change : α → β} (h : x.map change = y.map change) :
    Alike Eq (fun a b => change a = change b) x y := by
  cases x with
  | error e =>
      cases y with
      | error d => exact .error (by cases h; rfl)
      | ok b => cases h
  | ok a =>
      cases y with
      | error d => cases h
      | ok b => exact .ok (Except.ok.inj h)

end
end Alike
end ClassScribe
