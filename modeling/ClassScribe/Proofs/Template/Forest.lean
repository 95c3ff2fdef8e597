import ClassScribe.Proofs.Template.Failures
import ClassScribe.Proofs.Template.Inlining

/-! # Forests of blocks

The blocks of a template that has been parsed grow out of the slots of its layout, since each of them
comes from a place in one outline (`forest_blocksOf`). In such a forest a block comes before the ones
in its body, so that no block leads back to itself (`not_nests_self`), and a template that is rendered
on its own never stops at a block that is being rendered. -/

namespace ClassScribe.Template

variable {names names' : List String} {bs cs : List Block} {b : Block} {n m name : String}
  {t : Template} {source : String → Option Template} {r : Resolved}

/-! ### Forests of outlines -/

theorem Forest.append (h : Forest names bs) (h' : Forest names' cs) :
    Forest (names ++ names') (bs ++ cs) := by
  induction h with
  | nil => exact h'
  | block hinner _ _ ih =>
      rw [List.cons_append, List.cons_append, List.append_assoc]
      exact .block hinner ih

mutual
theorem forest_blocks : ∀ n : Node, Forest (elementSlots n.element) n.blocks
  | .text _ | .output _ | .super | .assign _ _ => .nil
  | .choice branches otherwise => (forest_branchBlocks branches).append (forest_blocksOf otherwise)
  | .loop _ _ body => forest_blocksOf body
  | .block name required body => by
      have h : Forest [name] (⟨name, required, Node.elements body⟩ :: (Node.blocksOf body ++ [])) :=
        @Forest.block ⟨name, required, Node.elements body⟩ _ _ _ (forest_blocksOf body) .nil
      rwa [List.append_nil] at h
/-- The blocks of an outline grow out of its slots. -/
theorem forest_blocksOf : ∀ ns : List Node, Forest (slots (Node.elements ns)) (Node.blocksOf ns)
  | [] => .nil
  | n :: ns => (forest_blocks n).append (forest_blocksOf ns)
theorem forest_branchBlocks : ∀ branches : List (Expr × List Node),
    Forest (branchSlots (Node.branchElements branches)) (Node.branchBlocks branches)
  | [] => .nil
  | (_, body) :: branches => (forest_blocksOf body).append (forest_branchBlocks branches)
end

/-! ### Slots and blocks -/

/-- The slots that a forest grows out of and the slots in its bodies are the names of its blocks. -/
theorem Forest.perm (h : Forest names bs) :
    (names ++ bs.flatMap fun b => slots b.body).Perm (bs.map (·.name)) := by
  induction h with
  | nil => exact .nil
  | @block b names inner further _ _ ihinner ihfurther =>
      rw [List.cons_append, List.map_cons, List.map_append, List.flatMap_cons, List.flatMap_append]
      refine .cons _ (.trans ?_ (ihinner.append ihfurther))
      have hswap : (names ++ (slots b.body ++ inner.flatMap fun c => slots c.body)).Perm
          (slots b.body ++ (inner.flatMap fun c => slots c.body) ++ names) := List.perm_append_comm
      simpa only [List.append_assoc] using hswap.append_right (further.flatMap fun c => slots c.body)

theorem Forest.mem_of_slot (h : Forest names bs) (hn : n ∈ names) : n ∈ bs.map (·.name) :=
  h.perm.subset (List.mem_append_left _ hn)

theorem Forest.precedes (h : Forest names bs) (hb : b ∈ bs) (hn : n ∈ slots b.body) :
    ∃ before after, bs.map (·.name) = before ++ b.name :: after ∧ n ∈ after := by
  induction h with
  | nil => cases hb
  | @block c names inner further hinner _ ihinner ihfurther =>
      rw [List.map_cons, List.map_append]
      rcases List.mem_cons.mp hb with rfl | hb
      · exact ⟨[], _, rfl, List.mem_append_left _ (hinner.mem_of_slot hn)⟩
      · rcases List.mem_append.mp hb with hb | hb
        · obtain ⟨before, after, heq, hmem⟩ := ihinner hb
          refine ⟨c.name :: before, after ++ further.map (·.name), ?_, List.mem_append_left _ hmem⟩
          rw [heq, List.cons_append, List.append_assoc, List.cons_append]
        · obtain ⟨before, after, heq, hmem⟩ := ihfurther hb
          refine ⟨c.name :: (inner.map (·.name) ++ before), after, ?_, hmem⟩
          rw [heq, List.cons_append, List.append_assoc]

theorem idxOf_lt_of_nests (h : Forest (slots t.layout) t.blocks) (hd : Distinct t.blocks)
    (hnests : t.Nests m n) : (t.blocks.map (·.name)).idxOf m < (t.blocks.map (·.name)).idxOf n := by
  obtain ⟨b, hb, hn⟩ := hnests
  obtain rfl : b.name = m := by simpa using List.find?_some hb
  obtain ⟨before, after, heq, hmem⟩ := h.precedes (List.mem_of_find?_eq_some hb) hn
  unfold Distinct at hd
  rw [heq, List.nodup_append, List.nodup_cons] at hd
  obtain ⟨-, ⟨hb, -⟩, hbefore⟩ := hd
  have hm : b.name ∉ before := fun h => hbefore _ h _ List.mem_cons_self rfl
  have hn : n ∉ before := fun h => hbefore _ h _ (List.mem_cons_of_mem _ hmem) rfl
  have hne : b.name ≠ n := fun h => hb (h ▸ hmem)
  rw [heq, List.idxOf_append_of_notMem hm, List.idxOf_append_of_notMem hn, List.idxOf_cons_self,
    List.idxOf_cons_ne _ hne]
  omega

/-- In a forest of blocks of different names no block leads back to its own slot. -/
theorem not_nests_self (h : Forest (slots t.layout) t.blocks) (hd : Distinct t.blocks) :
    ¬Relation.TransGen t.Nests n n := by
  have hlt : ∀ {m n}, Relation.TransGen t.Nests m n →
      (t.blocks.map (·.name)).idxOf m < (t.blocks.map (·.name)).idxOf n := by
    intro m n hnests
    induction hnests with
    | single hone => exact idxOf_lt_of_nests h hd hone
    | tail _ hone ih => exact ih.trans (idxOf_lt_of_nests h hd hone)
  intro hself
  exact Nat.lt_irrefl _ (hlt hself)

/-! ### Templates on their own -/

/-- The blocks of a template that is composed on its own are the ones that it defines. -/
theorem exists_block_of_inherited {leaf : String} {rb : ResolvedBlock}
    (h : inheritedBlock leaf name [t] = .ok rb) :
    ∃ b, t.block? name = some b ∧ rb = ⟨name, t.name, b.body⟩ := by
  cases hb : t.block? name with
  | none =>
      rw [inheritedBlock_of_none hb] at h
      cases h
  | some b =>
      refine ⟨b, rfl, ?_⟩
      cases hr : b.required with
      | true =>
          rw [inheritedBlock_of_required hb hr] at h
          cases h
      | false =>
          rw [inheritedBlock_of_defined hb hr, inheritedBody_of_some hb] at h
          split at h
          · cases h
          · cases h
            rfl

/-- The template of a name, and no other one. -/
def alone (t : Template) (n : String) : Option Template := if n = t.name then some t else none

theorem compose_alone (h : source t.name = some t) :
    compose source ⟨t.name, []⟩ = compose t.alone ⟨t.name, []⟩ := by
  have hself : t.alone t.name = some t := if_pos rfl
  unfold compose
  simp only [Chain.layers, collectLayers, h, hself]

theorem nests_of_alone (h : compose t.alone ⟨t.name, []⟩ = .ok r) (hnests : r.Nests m n) :
    t.Nests m n := by
  obtain ⟨layers, blocks, hlayers, -, hblocks, rfl⟩ := compose_eq_ok_iff.mp h
  obtain rfl : layers = [t] := by
    rw [← filterMap_of_collectLayers hlayers]
    simp [Chain.layers, alone]
  obtain ⟨rb, hrb, hn⟩ := hnests
  obtain rfl : rb.name = m := by simpa using List.find?_some hrb
  obtain ⟨name, -, hblock⟩ := exists_of_mem_mapM hblocks (List.mem_of_find?_eq_some hrb)
  obtain ⟨b, hb, rfl⟩ := exists_block_of_inherited hblock
  exact ⟨b, hb, hn⟩

/-- The blocks of a template that has been parsed have different names, and the slots in the layout and
in the bodies are theirs, one each. They form a forest that grows out of the layout, in the order in
which they are listed, and `super()` stands in their bodies only. So a root template that can be composed
on its own only fails by the values of the context when it is rendered, or the program halts at one. -/
theorem parse_forest {options : Spacing} {content : String} (h : parse options name content = .ok t) :
    Distinct t.blocks ∧
      (slots t.layout ++ t.blocks.flatMap fun b => slots b.body).Perm (t.blocks.map (·.name)) ∧
      Forest (slots t.layout) t.blocks ∧ callsSuper t.layout = false ∧
      (∀ source r, source name = some t → compose source ⟨name, []⟩ = .ok r →
        ∀ className context err, render r className context = .error err →
          (∃ block fault, ¬RenderFault.NamesUnknown fault ∧ err = .render className name block fault) ∨
          ∃ halt, r.Halts className context halt ∧ err = .halted halt) := by
  obtain ⟨_, parent, ns, -, -, hd, ht⟩ := parse_eq_ok_iff_sentence.mp h
  have hforest : Forest (slots t.layout) t.blocks := by
    rw [ht]
    exact forest_blocksOf ns
  have hdistinct : Distinct t.blocks := by
    rw [ht]
    exact hd
  have hname : t.name = name := by rw [ht]; rfl
  have hchecked := isChecked_of_parse h
  refine ⟨hdistinct, hforest.perm, hforest, ?_,
    fun source r hsource hr className context err herr => ?_⟩
  · exact callsSuper_of_checked _ (hchecked _ fun b hb => List.mem_map_of_mem hb).1
  · subst hname
    rw [compose_alone hsource] at hr
    have hall : AllParsed t.alone := by
      intro n u hu
      unfold alone at hu
      split at hu
      · cases hu
        exact ⟨options, _, content, h⟩
      · cases hu
    have hrname : r.name = t.name := by
      obtain ⟨_, _, -, -, -, rfl⟩ := compose_eq_ok_iff.mp hr
      rfl
    cases (isChecked_of_compose hall hr).ends herr with
    | value hfault => exact .inl ⟨_, _, hfault, by rw [hrname]⟩
    | recursive hleads hstops =>
        have hcycle := Resolved.Stops.nests_of_recursive hleads hstops
        have hnests := hcycle.lift id fun _ _ => nests_of_alone hr
        exact absurd hnests (not_nests_self hforest hdistinct)
    | halt hhalts => exact .inr ⟨_, hhalts, rfl⟩

/-- The outline of a list with a block for its rows, and a block that stands in a condition. -/
def rowsOutline : List Node :=
  [.block "list" false [.loop "x" (.var "xs") [.block "row" false [.output (.var "x")]]],
    .choice [(.var "more", [.block "rest" false [.text "..."]])] []]

/-- The source of the list. -/
def rowsSource : String :=
  "\x7b% block list %\x7d\x7b% for x in xs %\x7d\x7b% block row %\x7d\x7b\x7b x \x7d\x7d" ++
    "\x7b% endblock %\x7d\x7b% endfor %\x7d\x7b% endblock %\x7d" ++
    "\x7b% if more %\x7d\x7b% block rest %\x7d...\x7b% endblock %\x7d\x7b% endif %\x7d"

/-- The template of the list. -/
def rows : Template := ofOutline "rows" none rowsOutline

theorem parse_rows : parse .standard "rows" rowsSource = .ok rows :=
  parse_of_saysOutline (show saysOutline .standard none rowsOutline 13 _ = true by decide +kernel)

/-- The block of the rows stands in the one of the list, and both come before the block in the
condition. -/
theorem parse_forest_rows :
    parse .standard "rows" rowsSource = .ok rows ∧ rows.blocks.map (·.name) = ["list", "row", "rest"] ∧
      Distinct rows.blocks ∧
      (slots rows.layout ++ rows.blocks.flatMap fun b => slots b.body).Perm
        (rows.blocks.map (·.name)) ∧
      Forest (slots rows.layout) rows.blocks ∧ callsSuper rows.layout = false ∧
      ∃ r, compose rows.alone ⟨"rows", []⟩ = .ok r ∧
        ∀ className context err, render r className context = .error err →
          (∃ block fault, ¬RenderFault.NamesUnknown fault ∧ err = .render className "rows" block fault) ∨
          ∃ halt, r.Halts className context halt ∧ err = .halted halt := by
  obtain ⟨hd, hperm, hforest, hsuper, hrender⟩ := parse_forest parse_rows
  exact ⟨parse_rows, rfl, hd, hperm, hforest, hsuper, _, rfl, hrender rows.alone _ rfl rfl⟩

end ClassScribe.Template
