import Mathlib.Data.List.Nodup
import Mathlib.Data.String.Basic

/-! # Lists of named things

What is found in a list under a name. -/

namespace ClassScribe

variable {α : Type} {fs gs : List (String × α)} {key name : String}

theorem lookup_cons_of_ne (h : key ≠ name) (x : α) (fs : List (String × α)) :
    ((name, x) :: fs).lookup key = fs.lookup key := by
  rw [List.lookup_cons, beq_false_of_ne h]

theorem mem_of_lookup {x : α} (h : fs.lookup key = some x) : (key, x) ∈ fs := by
  obtain ⟨before, after, rfl, -⟩ := List.lookup_eq_some_iff.mp h
  exact List.mem_append_right _ List.mem_cons_self

theorem lookup_eq_none_of_lt (h : ∀ f ∈ fs, key < f.1) : fs.lookup key = none := by
  rw [List.lookup_eq_none_iff]
  intro f hf
  have hne : key ≠ f.1 := fun heq => String.lt_irrefl _ (heq ▸ h f hf)
  simpa using hne

/-- In lists of different keys the order does not count. -/
theorem lookup_perm (h : fs.Perm gs) (hn : (fs.map (·.1)).Nodup) (key : String) :
    fs.lookup key = gs.lookup key := by
  induction h with
  | nil => rfl
  | cons f _ ih =>
      obtain ⟨k, x⟩ := f
      rw [List.map_cons, List.nodup_cons] at hn
      rw [List.lookup_cons, List.lookup_cons, ih hn.2]
  | swap f g fs =>
      obtain ⟨k, x⟩ := f
      obtain ⟨l, y⟩ := g
      rw [List.map_cons, List.map_cons, List.nodup_cons, List.mem_cons, not_or] at hn
      simp only [List.lookup_cons]
      by_cases hk : key = k
      · have hl : key ≠ l := fun hl => hn.1.1 (hl.symm.trans hk)
        rw [beq_iff_eq.mpr hk, beq_false_of_ne hl]
      · rw [beq_false_of_ne hk]
  | trans h₁ _ ih₁ ih₂ => exact (ih₁ hn).trans (ih₂ ((h₁.map _).nodup hn))

end ClassScribe
