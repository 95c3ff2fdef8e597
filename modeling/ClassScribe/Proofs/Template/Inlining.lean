import Mathlib.Data.List.Flatten
import Mathlib.Data.List.Nodup
import Mathlib.Data.List.Perm.Basic
import ClassScribe.Template.Source

/-! # Templates as outlines

The outline of a template that is a tree has the layout of the template and its blocks
(`blocksOf_outline_perm`). The writing of the outline is a walk through the blocks: what is done and
what is pending are the slots of the layout and of the bodies of the blocks that are done
(`Walked`). -/

namespace ClassScribe.Template

/-! ### Elements and blocks of inlined bodies -/

section
variable {slot : String → Node}

mutual
theorem element_inlineElement (h : ∀ n, (slot n).element = .slot n) :
    ∀ e, (inlineElement slot e).element = e
  | .text _ | .output _ | .super | .assign _ _ => rfl
  | .choice branches otherwise => by
      rw [inlineElement, Node.element, branchElements_inlineBranches h branches,
        elements_inlineElements h otherwise]
  | .loop target items body => by rw [inlineElement, Node.element, elements_inlineElements h body]
  | .slot name => h name
theorem elements_inlineElements (h : ∀ n, (slot n).element = .slot n) :
    ∀ es, Node.elements (inlineElements slot es) = es
  | [] => rfl
  | e :: es => by
      rw [inlineElements, Node.elements, element_inlineElement h e, elements_inlineElements h es]
theorem branchElements_inlineBranches (h : ∀ n, (slot n).element = .slot n) :
    ∀ bs, Node.branchElements (inlineBranches slot bs) = bs
  | [] => rfl
  | (condition, body) :: bs => by
      rw [inlineBranches, Node.branchElements, elements_inlineElements h body,
        branchElements_inlineBranches h bs]
end

mutual
theorem blocks_inlineElement :
    ∀ e, (inlineElement slot e).blocks = (elementSlots e).flatMap fun n => (slot n).blocks
  | .text _ | .output _ | .super | .assign _ _ => rfl
  | .choice branches otherwise => by
      rw [inlineElement, Node.blocks, branchBlocks_inlineBranches branches,
        blocksOf_inlineElements otherwise, elementSlots, List.flatMap_append]
  | .loop target items body => by
      rw [inlineElement, Node.blocks, blocksOf_inlineElements body, elementSlots]
  | .slot name => by rw [inlineElement, elementSlots, List.flatMap_singleton]
theorem blocksOf_inlineElements :
    ∀ es, Node.blocksOf (inlineElements slot es) = (slots es).flatMap fun n => (slot n).blocks
  | [] => rfl
  | e :: es => by
      rw [inlineElements, Node.blocksOf, blocks_inlineElement e, blocksOf_inlineElements es, slots,
        List.flatMap_append]
theorem branchBlocks_inlineBranches :
    ∀ bs, Node.branchBlocks (inlineBranches slot bs) =
      (branchSlots bs).flatMap fun n => (slot n).blocks
  | [] => rfl
  | (condition, body) :: bs => by
      rw [inlineBranches, Node.branchBlocks, blocksOf_inlineElements body,
        branchBlocks_inlineBranches bs, branchSlots, List.flatMap_append]
end

end

variable {t : Template} {b c : Block} {n : String} {active path done pending : List String}

theorem element_blockNode (t : Template) (active : List String) (n : String) :
    (t.blockNode active n).element = .slot n := by
  rw [blockNode]
  split
  · rfl
  · split <;> rfl

/-- A block with its body inlined has the block and what stands in the body. -/
theorem blocks_inlined (t : Template) (active : List String) (b : Block) :
    (Node.block b.name b.required (inlineElements (t.blockNode active) b.body)).blocks =
      b :: (slots b.body).flatMap fun m => (t.blockNode active m).blocks := by
  rw [Node.blocks, elements_inlineElements (element_blockNode t active), blocksOf_inlineElements]

theorem blocks_blockNode (hn : active.contains n = false) (hb : t.block? n = some b) :
    (t.blockNode active n).blocks =
      b :: (slots b.body).flatMap fun m => (t.blockNode (n :: active) m).blocks := by
  obtain rfl : b.name = n := by simpa using List.find?_some hb
  rw [blockNode, dif_neg (by rw [hn]; exact Bool.false_ne_true)]
  split
  · next hnone =>
      rw [hb] at hnone
      cases hnone
  · next c hc =>
      obtain rfl : b = c := Option.some.inj (hb.symm.trans hc)
      exact blocks_inlined t (b.name :: active) b

theorem elements_outline (t : Template) : Node.elements t.outline = t.layout :=
  elements_inlineElements (element_blockNode t []) t.layout

/-! ### The walk through the blocks -/

/-- What has been written of a template: the blocks that are done and the ones that are pending have
their slots in the layout and in the bodies of the blocks that are done. -/
def Walked (t : Template) (done pending : List String) : Prop :=
  (done ++ pending).Perm
    (slots t.layout ++ (t.blocks.filter fun b => done.contains b.name).flatMap fun b => slots b.body)

theorem walked_layout (t : Template) : t.Walked [] (slots t.layout) := by
  simp [Walked]

theorem eq_of_name_eq (h : t.WellFormed) (hb : b ∈ t.blocks) (hc : c ∈ t.blocks)
    (hname : b.name = c.name) : b = c := List.inj_on_of_nodup_map h.distinct hb hc hname

theorem block?_of_mem (h : t.WellFormed) (hb : b ∈ t.blocks) : t.block? b.name = some b := by
  cases hfind : t.block? b.name with
  | none => exact absurd (beq_self_eq_true b.name) (List.find?_eq_none.mp hfind b hb)
  | some c =>
      have hname : c.name = b.name := by simpa using List.find?_some hfind
      rw [eq_of_name_eq h (List.mem_of_find?_eq_some hfind) hb hname]

namespace Walked

theorem subperm (ht : t.WellFormed) (h : t.Walked done pending) :
    (done ++ pending).Subperm (t.blocks.map (·.name)) := by
  have hfilter : (t.blocks.filter fun b => done.contains b.name).Sublist t.blocks :=
    List.filter_sublist
  have hsub := (List.Sublist.refl (slots t.layout)).append
    (hfilter.flatMap fun b : Block => slots b.body)
  exact ((List.Perm.subperm h).trans hsub.subperm).trans ht.slots.subperm

theorem nodup (ht : t.WellFormed) (h : t.Walked done pending) : (done ++ pending).Nodup := by
  obtain ⟨l, hperm, hsub⟩ := h.subperm ht
  exact hperm.nodup (hsub.nodup ht.distinct)

/-- Writing a block puts the slots of its body in its place. -/
theorem step (ht : t.WellFormed) (h : t.Walked done (n :: pending)) :
    n ∉ done ∧ ∃ b ∈ t.blocks, b.name = n ∧ t.Walked (done ++ [n]) (slots b.body ++ pending) := by
  have hnodup := h.nodup ht
  have hn : n ∉ done := fun hmem =>
    (List.nodup_append.mp hnodup).2.2 n hmem n List.mem_cons_self rfl
  have hname : n ∈ t.blocks.map (·.name) :=
    (h.subperm ht).subset (List.mem_append_right _ List.mem_cons_self)
  obtain ⟨b, hb, rfl⟩ := List.mem_map.mp hname
  refine ⟨hn, b, hb, rfl, ?_⟩
  have hblocks : (t.blocks.filter fun c => (done ++ [b.name]).contains c.name).Perm
      (b :: t.blocks.filter fun c => done.contains c.name) := by
    have hall : t.blocks.Nodup := ht.distinct.of_map
    have hclosed : b ∉ t.blocks.filter fun c => done.contains c.name := by simp [hn]
    refine (List.perm_ext_iff_of_nodup (hall.filter _)
      (List.nodup_cons.mpr ⟨hclosed, hall.filter _⟩)).mpr fun c => ?_
    have heq : c ∈ t.blocks → (c.name = b.name ↔ c = b) := fun hc =>
      ⟨eq_of_name_eq ht hc hb, congrArg _⟩
    simp only [List.mem_filter, List.contains_eq_mem, List.mem_append, decide_eq_true_eq,
      List.mem_cons, List.not_mem_nil, or_false]
    constructor
    · rintro ⟨hc, hdone | hname⟩
      · exact .inr ⟨hc, hdone⟩
      · exact .inl ((heq hc).mp hname)
    · rintro (rfl | ⟨hc, hdone⟩)
      · exact ⟨hb, .inr rfl⟩
      · exact ⟨hc, .inl hdone⟩
  have hslots := (hblocks.flatMap_right fun c => slots c.body).append_left (slots t.layout)
  rw [List.flatMap_cons] at hslots
  refine List.Perm.trans ?_ hslots.symm
  have hdone := List.perm_append_comm_assoc (done ++ [b.name]) (slots b.body) pending
  rw [List.append_assoc done [b.name] pending] at hdone
  exact (hdone.trans (List.Perm.append_left _ h)).trans (List.perm_append_comm_assoc _ _ _)

/-- At the end everything has been written. -/
theorem perm_names (ht : t.WellFormed) (h : t.Walked done []) :
    done.Perm (t.blocks.map (·.name)) := by
  have hperm := h
  unfold Walked at hperm
  rw [List.append_nil] at hperm
  have hnodup := h.nodup ht
  have hsub := (h.subperm ht).subset
  rw [List.append_nil] at hnodup hsub
  have hreached : ∀ n, t.Reaches n → n ∈ done := by
    intro n hn
    induction hn with
    | layout hslot => exact hperm.mem_iff.mpr (List.mem_append_left _ hslot)
    | body _ hnests ih =>
        obtain ⟨b, hb, hslot⟩ := hnests
        have hname := List.find?_some hb
        refine hperm.mem_iff.mpr (List.mem_append_right _ (List.mem_flatMap.mpr ⟨b, ?_, hslot⟩))
        rw [List.mem_filter, beq_iff_eq.mp hname]
        exact ⟨List.mem_of_find?_eq_some hb, by simpa using ih⟩
  refine (List.perm_ext_iff_of_nodup hnodup ht.distinct).mpr fun n => ⟨fun hn => hsub hn, fun hn => ?_⟩
  obtain ⟨b, hb, rfl⟩ := List.mem_map.mp hn
  exact hreached _ (ht.reached b hb)

end Walked

/-- Whether blocks are written for the slots of names inside of the blocks `active`. -/
def Writes (t : Template) (active names : List String) (blocks : List Block) : Prop :=
  ∀ done pending, (∀ a ∈ active, a ∈ done) → t.Walked done (names ++ pending) →
    t.Walked (done ++ blocks.map (·.name)) pending ∧ ∀ b ∈ blocks, b ∈ t.blocks

namespace Writes

theorem nil : t.Writes active [] [] := by
  intro done pending _ h
  rw [List.map_nil, List.append_nil]
  exact ⟨h, List.forall_mem_nil _⟩

theorem append {ns ms : List String} {bs cs : List Block} (h : t.Writes active ns bs)
    (h' : t.Writes active ms cs) : t.Writes active (ns ++ ms) (bs ++ cs) := by
  intro done pending hactive hwalked
  rw [List.append_assoc] at hwalked
  obtain ⟨hfirst, hbs⟩ := h _ _ hactive hwalked
  obtain ⟨hsecond, hcs⟩ := h' _ _ (fun a ha => List.mem_append_left _ (hactive a ha)) hfirst
  rw [List.map_append, ← List.append_assoc]
  exact ⟨hsecond, fun b hb => (List.mem_append.mp hb).elim (hbs b) (hcs b)⟩

theorem flatMap {f : String → List Block} (h : ∀ n, t.Writes active [n] (f n)) (ns : List String) :
    t.Writes active ns (ns.flatMap f) := by
  induction ns with
  | nil => exact nil
  | cons n ns ih => exact (h n).append ih

theorem blockNode (ht : t.WellFormed) (active : List String) (n : String) :
    t.Writes active [n] (t.blockNode active n).blocks := by
  fun_induction Template.blockNode t active n with
  | case1 active n hn =>
      intro done pending hactive h
      exact absurd (hactive n (by simpa using hn)) (h.step ht).1
  | case2 active n hn hb =>
      intro done pending _ h
      obtain ⟨-, b, hmem, rfl, -⟩ := h.step ht
      rw [block?_of_mem ht hmem] at hb
      cases hb
  | case3 active n hn b hb ih =>
      intro done pending hactive h
      obtain ⟨-, c, hmem, rfl, hwalked⟩ := h.step ht
      obtain rfl : c = b := Option.some.inj ((block?_of_mem ht hmem).symm.trans hb)
      have hinside : ∀ a ∈ c.name :: active, a ∈ done ++ [c.name] := by
        intro a ha
        rcases List.mem_cons.mp ha with rfl | ha
        · exact List.mem_append_right _ (List.mem_singleton_self _)
        · exact List.mem_append_left _ (hactive a ha)
      obtain ⟨hend, hblocks⟩ := flatMap ih (slots c.body) _ _ hinside hwalked
      rw [blocks_inlined]
      refine ⟨?_, List.forall_mem_cons.mpr ⟨hmem, hblocks⟩⟩
      rwa [List.append_assoc] at hend

end Writes

/-- The outline has the blocks of the template, in the order of their opening tags. -/
theorem blocksOf_outline_perm (ht : t.WellFormed) : (Node.blocksOf t.outline).Perm t.blocks := by
  have hwrites := Writes.flatMap (Writes.blockNode ht []) (slots t.layout)
  rw [← blocksOf_inlineElements] at hwrites
  have hlayout := t.walked_layout
  rw [← List.append_nil (slots t.layout)] at hlayout
  obtain ⟨hwalked, hmem⟩ := hwrites [] [] (List.forall_mem_nil _) hlayout
  have hnames := hwalked.perm_names ht
  have hdistinct := hnames.nodup_iff.mpr ht.distinct
  refine (List.perm_ext_iff_of_nodup hdistinct.of_map ht.distinct.of_map).mpr fun b =>
    ⟨hmem b, fun hb => ?_⟩
  obtain ⟨c, hc, hname⟩ := List.mem_map.mp (hnames.mem_iff.mpr (List.mem_map_of_mem hb))
  rwa [← eq_of_name_eq ht (hmem c hc) hb hname]

end ClassScribe.Template
