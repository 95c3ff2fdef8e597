import ClassScribe.Proofs.Template.Acceptance
import ClassScribe.Template.Nesting

/-! # The limit of nesting

The layout or the body of a block nests conditionals and loops as deep as the longest chain of them is
(`exists_chain_iff`). A block ends every chain: its body is looked at on its own. So a content passes the
check on load if it can be read and no chain in it is too long (`validateSource_nesting`), however many blocks
stand in each other (`validate_tower`). -/

namespace ClassScribe.Template

variable {name content : String} {n m : Node} {ns body chain : List Node} {k : Nat}

namespace Node

/-! ### Depths of nodes -/

theorem Holds.hasBody (h : n.Holds m) : n.hasBody = true := by
  obtain ⟨body, hbody, -⟩ := h
  cases n with
  | choice _ _ => rfl
  | loop _ _ _ => rfl
  | block _ _ _ => rfl
  | _ => cases hbody

theorem hasBody_of_isControl (h : n.isControl = true) : n.hasBody = true := by
  cases n with
  | choice _ _ => rfl
  | loop _ _ _ => rfl
  | _ => cases h

theorem lt_nesting_iff : k < nesting (elements ns) ↔ ∃ n ∈ ns, k < nestingOf n.element := by
  induction ns with
  | nil => simp [elements, nesting]
  | cons n ns ih => rw [elements, nesting, lt_max_iff, ih, List.exists_mem_cons_iff]

theorem lt_nestingOfBranches_iff {branches : List (Expr × List Node)} :
    k < nestingOfBranches (branchElements branches) ↔
      ∃ body ∈ branches.map Prod.snd, k < nesting (elements body) := by
  induction branches with
  | nil => simp [branchElements, nestingOfBranches]
  | cons branch branches ih =>
      rw [branchElements, nestingOfBranches, lt_max_iff, ih, List.map_cons, List.exists_mem_cons_iff]

theorem pos_nestingOf_iff : 0 < nestingOf n.element ↔ n.isControl = true := by
  cases n <;> simp [element, nestingOf, isControl]

/-- A conditional or a loop nests one level more than the parts that it holds. -/
theorem succ_lt_nestingOf_iff : k + 1 < nestingOf n.element ↔
    n.isControl = true ∧ ∃ m, n.Holds m ∧ k < nestingOf m.element := by
  have hbodies : k + 1 < nestingOf n.element ↔
      n.isControl = true ∧ ∃ body ∈ n.bodies, k < nesting (elements body) := by
    cases n with
    | choice branches otherwise =>
        have hmem : (∃ body ∈ bodies (.choice branches otherwise), k < nesting (elements body)) ↔
            (∃ body ∈ branches.map Prod.snd, k < nesting (elements body)) ∨
              k < nesting (elements otherwise) := by
          simp only [bodies, List.mem_append, List.mem_singleton, or_and_right, exists_or, exists_eq_left]
        rw [hmem, ← lt_nestingOfBranches_iff]
        simp only [element, nestingOf, isControl, true_and]
        omega
    | loop target items body =>
        simp only [element, nestingOf, bodies, isControl, List.mem_singleton, exists_eq_left, true_and]
        omega
    | _ => simp [element, nestingOf, bodies, isControl]
  rw [hbodies]
  refine and_congr_right fun _ => ⟨?_, ?_⟩
  · rintro ⟨body, hbody, hk⟩
    obtain ⟨m, hm, hk⟩ := lt_nesting_iff.mp hk
    exact ⟨m, ⟨body, hbody, hm⟩, hk⟩
  · rintro ⟨m, ⟨body, hbody, hm⟩, hk⟩
    exact ⟨body, hbody, lt_nesting_iff.mpr ⟨m, hm, hk⟩⟩

/-- A part that stands in another one, with nothing but conditionals and loops around it, nests less. -/
theorem nestingOf_lt_of_transGen
    (h : Relation.TransGen (fun n m : Node => n.isControl = true ∧ n.Holds m) n m) :
    nestingOf m.element < nestingOf n.element := by
  have hstep {n m : Node} (hcontrol : n.isControl = true) (hholds : n.Holds m) :
      nestingOf m.element < nestingOf n.element := by
    cases hm : nestingOf m.element with
    | zero => exact pos_nestingOf_iff.mpr hcontrol
    | succ k => exact succ_lt_nestingOf_iff.mpr ⟨hcontrol, m, hholds, by omega⟩
  induction h with
  | single h => exact hstep h.1 h.2
  | tail _ h ih => exact (hstep h.1 h.2).trans ih

/-- A part nests as many conditionals and loops as a chain of them that starts with the part has. -/
theorem length_lt_nestingOf (hcounted : ∀ m ∈ n :: chain, m.isControl = true)
    (hchain : (n :: chain).IsChain (Relation.TransGen fun n m => n.isControl = true ∧ n.Holds m)) :
    chain.length < nestingOf n.element := by
  induction chain generalizing n with
  | nil => exact pos_nestingOf_iff.mpr (hcounted n List.mem_cons_self)
  | cons m chain ih =>
      obtain ⟨hnested, hchain⟩ := List.isChain_cons_cons.mp hchain
      have hrest := ih (fun l hl => hcounted l (List.mem_cons_of_mem _ hl)) hchain
      have := nestingOf_lt_of_transGen hnested
      rw [List.length_cons]
      omega

/-- A part that nests many conditionals and loops starts a chain of them. -/
theorem exists_chain_of_lt (h : k < nestingOf n.element) : ∃ chain : List Node, chain.length = k ∧
    (∀ m ∈ n :: chain, m.isControl = true ∧ Relation.ReflTransGen Holds n m) ∧
    (n :: chain).IsChain (Relation.TransGen fun n m => n.isControl = true ∧ n.Holds m) := by
  induction k generalizing n with
  | zero =>
      refine ⟨[], rfl, fun m hm => ?_, .singleton n⟩
      rw [List.mem_singleton.mp hm]
      exact ⟨pos_nestingOf_iff.mp h, .refl⟩
  | succ k ih =>
      obtain ⟨hcontrol, m, hholds, hk⟩ := succ_lt_nestingOf_iff.mp h
      obtain ⟨chain, hlength, hall, hchain⟩ := ih hk
      refine ⟨m :: chain, by rw [List.length_cons, hlength], fun l hl => ?_,
        .cons_cons (.single ⟨hcontrol, hholds⟩) hchain⟩
      rcases List.mem_cons.mp hl with rfl | hl
      · exact ⟨hcontrol, .refl⟩
      · exact ⟨(hall l hl).1, .head hholds (hall l hl).2⟩

/-! ### Blocks -/

mutual
theorem exists_of_mem_blocks {b : Block} : ∀ {n : Node}, b ∈ n.blocks →
    ∃ body, b.body = elements body ∧ Relation.ReflTransGen Holds n (.block b.name b.required body)
  | .block name required body, h => by
      rcases List.mem_cons.mp h with rfl | h
      · exact ⟨body, rfl, .refl⟩
      · obtain ⟨m, hm, inner, hbody, hreach⟩ := exists_of_mem_blocksOf h
        exact ⟨inner, hbody, .head ⟨body, List.mem_singleton_self _, hm⟩ hreach⟩
  | .choice branches otherwise, h => by
      rcases List.mem_append.mp h with h | h
      · obtain ⟨body, hmem, m, hm, inner, hbody, hreach⟩ := exists_of_mem_branchBlocks h
        exact ⟨inner, hbody, .head ⟨body, List.mem_append_left _ hmem, hm⟩ hreach⟩
      · obtain ⟨m, hm, inner, hbody, hreach⟩ := exists_of_mem_blocksOf h
        exact ⟨inner, hbody,
          .head ⟨otherwise, List.mem_append_right _ (List.mem_singleton_self _), hm⟩ hreach⟩
  | .loop _ _ body, h => by
      obtain ⟨m, hm, inner, hbody, hreach⟩ := exists_of_mem_blocksOf h
      exact ⟨inner, hbody, .head ⟨body, List.mem_singleton_self _, hm⟩ hreach⟩
  | .text _, h | .output _, h | .super, h | .assign _ _, h => by cases h
theorem exists_of_mem_blocksOf {b : Block} : ∀ {ns : List Node}, b ∈ blocksOf ns →
    ∃ n ∈ ns, ∃ body, b.body = elements body ∧
      Relation.ReflTransGen Holds n (.block b.name b.required body)
  | [], h => by cases h
  | n :: ns, h => by
      rcases List.mem_append.mp h with h | h
      · exact ⟨n, List.mem_cons_self, exists_of_mem_blocks h⟩
      · obtain ⟨m, hm, hblock⟩ := exists_of_mem_blocksOf h
        exact ⟨m, List.mem_cons_of_mem _ hm, hblock⟩
theorem exists_of_mem_branchBlocks {b : Block} : ∀ {branches : List (Expr × List Node)},
    b ∈ branchBlocks branches → ∃ body ∈ branches.map Prod.snd, ∃ n ∈ body, ∃ inner,
      b.body = elements inner ∧ Relation.ReflTransGen Holds n (.block b.name b.required inner)
  | [], h => by cases h
  | (_, body) :: branches, h => by
      rcases List.mem_append.mp h with h | h
      · exact ⟨body, List.mem_cons_self, exists_of_mem_blocksOf h⟩
      · obtain ⟨other, hmem, hblock⟩ := exists_of_mem_branchBlocks h
        exact ⟨other, List.mem_cons_of_mem _ hmem, hblock⟩
end

theorem blocks_subset_blocksOf (h : n ∈ ns) : n.blocks ⊆ blocksOf ns := by
  induction ns with
  | nil => cases h
  | cons m ns ih =>
      rcases List.mem_cons.mp h with rfl | h
      · exact List.subset_append_left _ _
      · exact List.subset_append_of_subset_right _ (ih h)

theorem blocksOf_subset_branchBlocks {branches : List (Expr × List Node)}
    (h : body ∈ branches.map Prod.snd) : blocksOf body ⊆ branchBlocks branches := by
  induction branches with
  | nil => cases h
  | cons branch branches ih =>
      rcases List.mem_cons.mp h with rfl | h
      · exact List.subset_append_left _ _
      · exact List.subset_append_of_subset_right _ (ih h)

theorem Holds.blocks_subset (h : n.Holds m) : m.blocks ⊆ n.blocks := by
  obtain ⟨body, hbody, hm⟩ := h
  refine List.Subset.trans (blocks_subset_blocksOf hm) ?_
  cases n with
  | choice branches otherwise =>
      rcases List.mem_append.mp hbody with hbody | hbody
      · exact List.subset_append_of_subset_left _ (blocksOf_subset_branchBlocks hbody)
      · rw [List.mem_singleton.mp hbody]
        exact List.subset_append_right _ _
  | loop _ _ _ =>
      rw [List.mem_singleton.mp hbody]
      exact List.Subset.refl _
  | block _ _ _ =>
      rw [List.mem_singleton.mp hbody]
      exact List.subset_cons_self _ _
  | _ => cases hbody

/-- What a part nests is nested by the part around it, or by the body of a block. -/
theorem Holds.lt_nesting (h : n.Holds m)
    (hk : k < nestingOf m.element ∨ ∃ b ∈ m.blocks, k < nesting b.body) :
    k < nestingOf n.element ∨ ∃ b ∈ n.blocks, k < nesting b.body := by
  rcases hk with hk | ⟨b, hb, hk⟩
  · by_cases hcontrol : n.isControl = true
    · exact .inl (Nat.lt_of_succ_lt (succ_lt_nestingOf_iff.mpr ⟨hcontrol, m, h, hk⟩))
    · obtain ⟨body, hbody, hm⟩ := h
      cases n with
      | block name required inner =>
          rw [List.mem_singleton.mp hbody] at hm
          exact .inr ⟨_, List.mem_cons_self, lt_nesting_iff.mpr ⟨m, hm, hk⟩⟩
      | choice _ _ => exact absurd rfl hcontrol
      | loop _ _ _ => exact absurd rfl hcontrol
      | _ => cases hbody
  · exact .inr ⟨b, h.blocks_subset hb, hk⟩

end Node

/-! ### Chains -/

open Node

/-- The layout or the body of a block nests more than so many conditionals and loops just if some part of the
outline does. -/
theorem exists_within_iff : (∃ n, Within ns n ∧ k < nestingOf n.element) ↔
    k < nesting (elements ns) ∨ ∃ b ∈ blocksOf ns, k < nesting b.body := by
  constructor
  · rintro ⟨m, ⟨n, hn, hreach⟩, hk⟩
    have hdeep : ∀ n, Relation.ReflTransGen Holds n m →
        k < nestingOf n.element ∨ ∃ b ∈ n.blocks, k < nesting b.body := by
      intro n hreach
      induction hreach using Relation.ReflTransGen.head_induction_on with
      | refl => exact .inl hk
      | head hholds _ ih => exact hholds.lt_nesting ih
    rcases hdeep n hreach with hdeep | ⟨b, hb, hdeep⟩
    · exact .inl (lt_nesting_iff.mpr ⟨n, hn, hdeep⟩)
    · exact .inr ⟨b, blocks_subset_blocksOf hn hb, hdeep⟩
  · rintro (hk | ⟨b, hb, hk⟩)
    · obtain ⟨n, hn, hk⟩ := lt_nesting_iff.mp hk
      exact ⟨n, ⟨n, hn, .refl⟩, hk⟩
    · obtain ⟨n, hn, body, hbody, hreach⟩ := exists_of_mem_blocksOf hb
      rw [hbody] at hk
      obtain ⟨m, hm, hk⟩ := lt_nesting_iff.mp hk
      exact ⟨m, ⟨n, hn, hreach.tail ⟨body, List.mem_singleton_self _, hm⟩⟩, hk⟩

/-- The layout or the body of a block nests more than so many conditionals and loops just if there is a chain of
more than so many. -/
theorem exists_chain_iff : (∃ chain, NestingChain isControl ns chain ∧ chain.length = k + 1) ↔
    k < nesting (elements ns) ∨ ∃ b ∈ blocksOf ns, k < nesting b.body := by
  rw [← exists_within_iff]
  constructor
  · rintro ⟨chain, hchain, hlength⟩
    cases chain with
    | nil => cases hlength
    | cons n chain =>
        rw [List.length_cons, Nat.add_right_cancel_iff] at hlength
        rw [← hlength]
        exact ⟨n, hchain.within n List.mem_cons_self, length_lt_nestingOf hchain.counted hchain.nested⟩
  · rintro ⟨n, ⟨l, hl, hreach⟩, hk⟩
    obtain ⟨chain, hlength, hall, hchain⟩ := exists_chain_of_lt hk
    refine ⟨n :: chain, ⟨fun m hm => ?_, fun m hm => (hall m hm).1, hchain⟩, ?_⟩
    · exact ⟨l, hl, hreach.trans (hall m hm).2⟩
    · rw [List.length_cons, hlength]

/-! ### The check -/

/-- The check of the template of an outline looks for a chain of conditionals and loops that is too long. -/
theorem validate_ofOutline (name : String) (parent : Option String) (ns : List Node) :
    (validate (ofOutline name parent ns) = .ok () ∧
      ¬∃ chain, NestingChain isControl ns chain ∧ chain.length = maxNesting + 1) ∨
    (validate (ofOutline name parent ns) = .error (.nestedTooDeep name maxNesting) ∧
      ∃ chain, NestingChain isControl ns chain ∧ chain.length = maxNesting + 1) := by
  have hcheck : (decide (maxNesting < nesting (elements ns)) ||
      (blocksOf ns).any fun b => decide (maxNesting < nesting b.body)) = true ↔
      ∃ chain, NestingChain isControl ns chain ∧ chain.length = maxNesting + 1 := by
    rw [exists_chain_iff, Bool.or_eq_true, List.any_eq_true]
    simp only [decide_eq_true_eq]
  by_cases h : ∃ chain, NestingChain isControl ns chain ∧ chain.length = maxNesting + 1
  · exact .inr ⟨if_pos (hcheck.mpr h), h⟩
  · exact .inl ⟨if_neg (mt hcheck.mp h), h⟩

/-- A chain of conditionals and loops is a chain if blocks may stand in it too. -/
theorem NestingChain.hasBody (h : NestingChain isControl ns chain) : NestingChain Node.hasBody ns chain where
  within := h.within
  counted n hn := hasBody_of_isControl (h.counted n hn)
  nested := h.nested.imp fun _ _ hnested =>
    Relation.TransGen.mono (fun _ _ h => ⟨h.2.hasBody, h.2⟩) _ _ hnested

/-- A content is valid just if it can be read and there is no chain of eleven conditionals and loops in it
without a block between them, so all the more if there is no such chain of statements of any kind. A content
that cannot be read fails for that reason, and one with a chain of eleven for its nesting. -/
theorem validateSource_nesting (name content : String) :
    (validateSource name content = .ok () ↔ ∃ parent ns, Outlines content parent ns ∧
      ¬∃ chain, NestingChain isControl ns chain ∧ chain.length = maxNesting + 1) ∧
    (∀ e, parse .standard name content = .error e → validateSource name content = .error e) ∧
    ∀ parent ns, Outlines content parent ns →
      (validateSource name content = .error (.nestedTooDeep name maxNesting) ↔
        ∃ chain, NestingChain isControl ns chain ∧ chain.length = maxNesting + 1) ∧
      ((¬∃ chain, NestingChain Node.hasBody ns chain ∧ chain.length = maxNesting + 1) →
        validateSource name content = .ok ()) := by
  have hvalidate {parent ns} (hout : Outlines content parent ns) :
      validateSource name content = validate (ofOutline name parent ns) := by
    obtain ⟨pieces, hcut, hsentence, hd⟩ := hout
    have hparse : parse .standard name content = .ok (ofOutline name parent ns) :=
      parse_eq_ok_iff_sentence.mpr ⟨pieces, parent, ns, hcut, hsentence, hd, rfl⟩
    rw [validateSource, hparse]
    rfl
  refine ⟨⟨fun h => ?_, ?_⟩, fun e h => ?_, fun parent ns hout => ⟨?_, fun hnone => ?_⟩⟩
  · obtain ⟨t, hparse, hok⟩ := bind_eq_ok.mp h
    obtain ⟨pieces, parent, ns, hcut, hsentence, hd, rfl⟩ := parse_eq_ok_iff_sentence.mp hparse
    refine ⟨parent, ns, ⟨pieces, hcut, hsentence, hd⟩, ?_⟩
    rcases validate_ofOutline name parent ns with ⟨-, hnone⟩ | ⟨herror, -⟩
    · exact hnone
    · rw [hok] at herror
      cases herror
  · rintro ⟨parent, ns, hout, hnone⟩
    rw [hvalidate hout]
    rcases validate_ofOutline name parent ns with ⟨hok, -⟩ | ⟨-, hsome⟩
    · exact hok
    · exact absurd hsome hnone
  · rw [validateSource, h]
    rfl
  · rw [hvalidate hout]
    rcases validate_ofOutline name parent ns with ⟨hok, hnone⟩ | ⟨herror, hsome⟩
    · rw [hok]
      exact ⟨nofun, fun hsome => absurd hsome hnone⟩
    · exact ⟨fun _ => hsome, fun _ => herror⟩
  · rw [hvalidate hout]
    rcases validate_ofOutline name parent ns with ⟨hok, -⟩ | ⟨-, chain, hchain, hlength⟩
    · exact hok
    · exact absurd ⟨chain, hchain.hasBody, hlength⟩ hnone

/-- A loop in a block in a conditional is valid: no chain in it has more than one part. -/
theorem validateSource_nesting_panel :
    validateSource "panel" ("\x7b% if a %\x7d\x7b% block b %\x7d\x7b% for x in xs %\x7d-" ++
      "\x7b% endfor %\x7d\x7b% endblock %\x7d\x7b% endif %\x7d") = .ok () := by
  let outline : List Node := [.choice [(.var "a", [.block "b" false [.loop "x" (.var "xs") [.text "-"]]])] []]
  refine (validateSource_nesting "panel" _).1.mpr ⟨none, outline, ?_, ?_⟩
  · exact sentence_of_saysOutline (show saysOutline .standard none outline 7 _ = true by decide +kernel)
  · rw [exists_chain_iff]
    decide

/-! ### Towers -/

/-- Blocks of some names, each of which stands in the one before it. -/
def tower : List String → List Node
  | [] => []
  | name :: names => [.block name false (tower names)]

theorem nesting_tower (names : List String) : nesting (elements (tower names)) = 0 := by
  cases names <;> rfl

theorem nesting_blocksOf_tower {names : List String} {b : Block} (h : b ∈ blocksOf (tower names)) :
    nesting b.body = 0 := by
  induction names with
  | nil => cases h
  | cons name names ih =>
      rw [tower, blocksOf, blocksOf, List.append_nil] at h
      rcases List.mem_cons.mp h with rfl | h
      · exact nesting_tower names
      · exact ih h

theorem validate_tower (name : String) (parent : Option String) (names : List String) :
    validate (ofOutline name parent (tower names)) = .ok () := by
  rcases validate_ofOutline name parent (tower names) with ⟨hok, -⟩ | ⟨-, hsome⟩
  · exact hok
  · rcases exists_chain_iff.mp hsome with hdeep | ⟨b, hb, hdeep⟩
    · rw [nesting_tower] at hdeep
      exact absurd hdeep (Nat.not_lt_zero _)
    · rw [nesting_blocksOf_tower hb] at hdeep
      exact absurd hdeep (Nat.not_lt_zero _)

/-- The blocks of a tower are a chain. -/
theorem exists_chain_tower (names : List String) :
    ∃ chain, NestingChain Node.hasBody (tower names) chain ∧ chain.length = names.length ∧
      ∀ n ∈ chain.head?, n ∈ tower names := by
  induction names with
  | nil => exact ⟨[], ⟨nofun, nofun, .nil⟩, rfl, nofun⟩
  | cons name names ih =>
      obtain ⟨chain, hchain, hlength, hhead⟩ := ih
      have hholds {m : Node} (hm : m ∈ tower names) : Holds (.block name false (tower names)) m :=
        ⟨_, List.mem_singleton_self _, hm⟩
      refine ⟨.block name false (tower names) :: chain, ⟨fun n hn => ?_, fun n hn => ?_, ?_⟩, ?_, ?_⟩
      · refine ⟨_, List.mem_singleton_self _, ?_⟩
        rcases List.mem_cons.mp hn with rfl | hn
        · exact .refl
        · obtain ⟨m, hm, hreach⟩ := hchain.within n hn
          exact .head (hholds hm) hreach
      · rcases List.mem_cons.mp hn with rfl | hn
        · rfl
        · exact hchain.counted n hn
      · exact List.isChain_cons.mpr ⟨fun n hn => .single ⟨rfl, hholds (hhead n hn)⟩, hchain.nested⟩
      · rw [List.length_cons, List.length_cons, hlength]
      · rintro n ⟨⟩
        exact List.mem_singleton_self _

/-- The source of a tower of blocks. -/
def towerSource (names : List String) : String :=
  String.ofList ((names.flatMap fun name => "\x7b% block ".toList ++ name.toList ++ " %\x7d".toList) ++
    names.flatMap fun _ => "\x7b% endblock %\x7d".toList)

/-- Eleven names. -/
def elevenNames : List String := ["a", "b", "c", "d", "e", "f", "g", "h", "i", "j", "k"]

/-- Eleven blocks that stand in each other are valid. -/
theorem validateSource_passes_blocks :
    Outlines (towerSource elevenNames) none (tower elevenNames) ∧
    (∃ chain, NestingChain Node.hasBody (tower elevenNames) chain ∧ chain.length = maxNesting + 1) ∧
    validateSource "test" (towerSource elevenNames) = .ok () := by
  have hsays : saysOutline .standard none (tower elevenNames) 23 (towerSource elevenNames).toList = true := by
    rw [towerSource, String.toList_ofList]
    decide +kernel
  obtain ⟨chain, hchain, hlength, -⟩ := exists_chain_tower elevenNames
  refine ⟨sentence_of_saysOutline hsays, ⟨chain, hchain, hlength⟩, ?_⟩
  rw [validateSource, parse_of_saysOutline hsays]
  exact validate_tower "test" none elevenNames

end ClassScribe.Template
