import ClassScribe.Emission.Emitter
import ClassScribe.Proofs.Template.Ancestry

/-! # Where overrides act

Two libraries that have the same templates along the parents of a template, whatever else they have, give
it the same chain, the chain the same composed template, and a class the same source (`emit_eq_along`). So a
template that is put into a library acts only on what comes along it. -/

namespace ClassScribe
namespace Template

section
variable {source source' : String → Option Template} {chain : Chain}

theorem collectLayers_congr {names : List String} (h : ∀ n ∈ names, source n = source' n)
    (seen : List Template) :
    collectLayers source chain seen names = collectLayers source' chain seen names := by
  induction names generalizing seen with
  | nil => rfl
  | cons n rest ih =>
      rw [List.forall_mem_cons] at h
      simp only [collectLayers, h.1, ih h.2]

theorem compose_congr (h : ∀ n ∈ chain.layers, source n = source' n) :
    compose source chain = compose source' chain := by
  unfold compose
  rw [collectLayers_congr h]

end

namespace Library

variable {l l' : Library} {leaf n top : String} {path : List String} {t : Template} {chain : Chain}

/-- The libraries have the same template, or both none, under each name that the first one comes along from a
template on. -/
def SameAlong (l l' : Library) (leaf : String) : Prop :=
  ∀ n path, l.Ascends leaf (n :: path) → l.get? n = l'.get? n

/-- What one has come along, one comes to. -/
theorem Ascends.exists_of_mem (h : l.Ascends leaf path) (hn : n ∈ path) :
    ∃ below, l.Ascends leaf (n :: below) := by
  induction h with
  | start =>
      obtain rfl := List.mem_singleton.mp hn
      exact ⟨[], .start⟩
  | up hbelow hext ih =>
      rcases List.mem_cons.mp hn with rfl | hn
      · exact ⟨_, .up hbelow hext⟩
      · exact ih hn

/-- Where there is a chain, one comes along its layers only. -/
theorem mem_layers_of_ascends (hchain : l.chainFor leaf = .ok chain) (hway : l.Ascends leaf (n :: path)) :
    n ∈ chain.layers := by
  have hsuffix := (chainFor_eq_ok_iff.mp hchain).suffix hway
  exact hsuffix.subset List.mem_cons_self

theorem sameAlong_insert (h : ∀ path, ¬l.Ascends leaf (t.name :: path)) :
    l.SameAlong (l.insert t) leaf := by
  intro n path hway
  have hne : n ≠ t.name := by
    rintro rfl
    exact h path hway
  exact (get?_insert_of_ne hne).symm

/-- The second library is walked along the same parents. -/
theorem SameAlong.walk_eq (h : l.SameAlong l' leaf) (ht : l.get? top = some t)
    (hway : l.Ascends leaf (top :: path)) :
    l.walk leaf (top :: path) t = l'.walk leaf (top :: path) t := by
  generalize hnames : top :: path = names at hway
  fun_induction walk l leaf names t generalizing top path with
  | case1 names t hnone => rw [walk_of_root hnone]
  | case2 names t parent hp hmem => rw [walk_of_seen hp hmem]
  | case3 names t parent hp hnew hnone =>
      cases hnames
      have hnone' : l'.get? parent = none := (h _ _ (.up hway ⟨t, ht, hp⟩)).symm.trans hnone
      rw [walk_of_missing hp (by simpa using hnew) hnone']
  | case4 names t parent hp hnew u hu ih =>
      cases hnames
      have hup : l.Ascends leaf (parent :: top :: path) := .up hway ⟨t, ht, hp⟩
      have hu' : l'.get? parent = some u := (h _ _ hup).symm.trans hu
      rw [walk_of_parent hp (by simpa using hnew) hu']
      exact ih hu rfl hup

theorem SameAlong.chainFor_eq (h : l.SameAlong l' leaf) : l.chainFor leaf = l'.chainFor leaf := by
  have hleaf : l.get? leaf = l'.get? leaf := h leaf [] .start
  cases ht : l.get? leaf with
  | none =>
      unfold chainFor
      rw [← hleaf, ht]
  | some t =>
      rw [Library.chainFor_eq ht, Library.chainFor_eq (hleaf.symm.trans ht), h.walk_eq ht .start]

theorem SameAlong.resolve_eq (h : l.SameAlong l' leaf) (hchain : l.chainFor leaf = .ok chain) :
    l.resolve chain = l'.resolve chain := by
  refine compose_congr fun n hn => ?_
  obtain ⟨below, hbelow⟩ := (chainFor_eq_ok_iff.mp hchain).ascends.exists_of_mem hn
  exact h n below hbelow

end Library
end Template

namespace Emitter
open Template (Library Chain)

variable {l l' : Library} {leaf : String} {chain : Chain}

theorem render_eq_along (h : l.SameAlong l' leaf) (hchain : l.chainFor leaf = .ok chain) (names : LeafNames)
    (s : ClassSpec) : render ⟨l, names⟩ s chain = render ⟨l', names⟩ s chain := by
  unfold render
  rw [h.resolve_eq hchain]

/-- Overrides act only where they are used: libraries that agree along the parents of a template, whatever
else they have, have the same chain for it or fail with the same error, compose the chain to the same
template, and give every class the same source by this chain, or fail with the same error. -/
theorem emit_eq_along (l l' : Library) (leaf : String) (h : l.SameAlong l' leaf) :
    l.chainFor leaf = l'.chainFor leaf ∧
      (l.chainFor leaf >>= l.resolve) = (l'.chainFor leaf >>= l'.resolve) ∧
      ∀ (names : LeafNames) (s : ClassSpec),
        (l.chainFor leaf >>= render ⟨l, names⟩ s) = (l'.chainFor leaf >>= render ⟨l', names⟩ s) ∧
          (names.forKind s.kind = leaf → emit ⟨l, names⟩ s = emit ⟨l', names⟩ s) := by
  have hrender (names : LeafNames) (s : ClassSpec) :
      (l.chainFor leaf >>= render ⟨l, names⟩ s) = l'.chainFor leaf >>= render ⟨l', names⟩ s := by
    rw [← h.chainFor_eq]
    cases hchain : l.chainFor leaf with
    | error err => rfl
    | ok chain => exact render_eq_along h hchain names s
  refine ⟨h.chainFor_eq, ?_, fun names s => ⟨hrender names s, ?_⟩⟩
  · rw [← h.chainFor_eq]
    cases hchain : l.chainFor leaf with
    | error err => rfl
    | ok chain => exact h.resolve_eq hchain
  · rintro rfl
    exact hrender names s

/-- Another template for the name "loop" changes nothing for the leaf, which does not extend it. -/
theorem emit_eq_along_kin :
    Library.kin.SameAlong (Library.kin.insert ⟨"loop", none, [.text "x"], []⟩) "leaf" ∧
      (Library.kin.insert ⟨"loop", none, [.text "x"], []⟩).chainFor "leaf" = .ok ⟨"base", ["leaf"]⟩ ∧
      ∀ s, emit ⟨Library.kin, "leaf", "leaf", "leaf"⟩ s =
        emit ⟨Library.kin.insert ⟨"loop", none, [.text "x"], []⟩, "leaf", "leaf", "leaf"⟩ s := by
  have hsame : Library.kin.SameAlong (Library.kin.insert ⟨"loop", none, [.text "x"], []⟩) "leaf" := by
    refine Library.sameAlong_insert fun path hway => ?_
    have hmem := Library.mem_layers_of_ascends Library.chainFor_kin_leaf hway
    revert hmem
    decide
  have halong := emit_eq_along _ _ _ hsame
  refine ⟨hsame, halong.1.symm.trans Library.chainFor_kin_leaf, fun s => ?_⟩
  refine (halong.2.2 ⟨"leaf", "leaf", "leaf"⟩ s).2 ?_
  cases s.kind with
  | struct => rfl
  | enum => rfl
  | function => rfl

end Emitter
end ClassScribe
