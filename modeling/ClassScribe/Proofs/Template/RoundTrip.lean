import ClassScribe.Proofs.Template.Inlining
import ClassScribe.Proofs.Template.Phrasing

/-! # Templates that are written and read back

A template that is a tree is read back from its text (`parse_written`): the text is cut into a sentence
of the grammar that says the outline, and the outline has the layout and the blocks of the template. -/

namespace ClassScribe.Template

variable {write : Expr → List Char} {allowed : List (List Char) → Prop} {inside : Bool}
  {t : Template} {ps : List Part} {source : List Char} {line : Nat} {ns : List Node} {s : List Char}

/-! ### Openings of blocks -/

/-- The block that a statement opens. -/
def Statement.opening? : Statement → Option String
  | .block name _ => some name
  | _ => none

theorem opening?_of_written {st : Statement} (h : st.Written allowed source) :
    Part.opening? (.statement source line) = st.opening? := by
  obtain ⟨passed, hsays, -⟩ := h
  obtain ⟨hword, harg⟩ := Statement.says_iff.mp hsays
  show (if Part.keyword source = "block".toList then
    (Text.words (Part.argument source)).head?.map String.ofList else none) = _
  rw [hword]
  generalize Part.argument source = s at harg
  cases harg with
  | block _ hwords => simp [Statement.keyword, Statement.opening?, hwords]
  | required _ hwords => simp [Statement.keyword, Statement.opening?, hwords]
  | _ => exact if_neg (by simp [Statement.keyword])

/-- The blocks are in the order of the statements that open them. -/
theorem Phrase.Says.openings {phrase : Phrase} (h : Phrase.Says allowed inside phrase ps) :
    ps.filterMap Part.opening? = phrase.blocks.map (·.name) := by
  induction h with
  | done => rfl
  | text _ ih => exact ih
  | output _ _ _ ih => exact ih
  | super _ ih => exact ih
  | assign hst _ ih =>
      rw [List.filterMap_cons_none (opening?_of_written hst), ih]
      rfl
  | loop hopen _ hclose _ ihbody ih =>
      rw [List.filterMap_cons_none (opening?_of_written hopen), List.filterMap_append, ihbody,
        List.filterMap_cons_none (opening?_of_written hclose), ih]
      exact List.map_append.symm
  | block hopen _ _ hclose _ ihbody ih =>
      rw [List.filterMap_cons_some (opening?_of_written hopen), List.filterMap_append, ihbody,
        List.filterMap_cons_none (opening?_of_written hclose), ih]
      exact congrArg (_ :: ·) List.map_append.symm
  | choice hopen _ _ _ ihbody iharms ih =>
      rw [List.filterMap_cons_none (opening?_of_written hopen), List.filterMap_append, ihbody,
        List.filterMap_append, iharms, ih]
      simp [blocks, Node.blocksOf, Node.blocks, Node.branchBlocks]
  | elif hst _ _ ihbody iharms =>
      rw [List.filterMap_cons_none (opening?_of_written hst), List.filterMap_append, ihbody, iharms]
      simp [blocks, Node.branchBlocks]
  | otherwise hst _ hclose ihbody =>
      rw [List.filterMap_cons_none (opening?_of_written hst), List.filterMap_append, ihbody,
        List.filterMap_cons_none (opening?_of_written hclose)]
      exact List.append_nil _
  | endif hst =>
      rw [List.filterMap_cons_none (opening?_of_written hst)]
      rfl

theorem Sentence.openings {parent : Option String} (h : Sentence allowed parent ns ps) :
    ps.filterMap Part.opening? = (Node.blocksOf ns).map (·.name) := by
  cases h with
  | root hnodes => exact hnodes.openings
  | child hnodes hparent hmore =>
      rw [List.filterMap_append, hnodes.openings,
        List.filterMap_cons_none (opening?_of_written hparent), hmore.openings, Node.blocksOf_append]
      exact List.map_append.symm

/-! ### Texts of templates -/

theorem mem_names_of_slot (ht : t.WellFormed) {b : Block} (hb : b ∈ t.blocks) {n : String}
    (hn : n ∈ slots b.body) : n ∈ t.blocks.map (·.name) :=
  ht.slots.subset (List.mem_append_right _ (List.mem_flatMap.mpr ⟨b, hb, hn⟩))

/-- The text of a template is cut into a sentence that says its outline. -/
theorem lexes_source (ht : t.WellFormed) (hwrite : Spells write) :
    Lexes (t.source write) (Sentence (fun _ => True) t.parent t.outline) := by
  have hnodes : LexesPhrase false (.nodes t.outline) (Node.sources write t.outline) :=
    lexes_inlineElements hwrite t.layout ht.layout (.inr ht.super) fun n hn =>
      lexes_blockNode hwrite ht.names ht.bodies (fun b hb n hn => mem_names_of_slot ht hb hn)
        (ht.slots.subset (List.mem_append_left _ hn)) []
  unfold source
  cases hparent : t.parent with
  | none => exact Lexes.mono hnodes fun ps => .root
  | some parent =>
      refine (Lexes.append (lexesAs_parent (ht.parent parent hparent)) hnodes).mono ?_
      rintro _ ⟨_, ps, ⟨_, _, rfl, hextends⟩, hps, rfl⟩
      exact .child .done hextends hps

/-- A template that can be written is read back from its text: with its name, its parent and its layout,
and with its blocks in the order of their opening statements. -/
theorem parse_written (ht : t.WellFormed) (hwrite : Spells write) :
    parse ⟨false, false⟩ t.name (String.ofList (t.source write)) =
        .ok { t with blocks := Node.blocksOf t.outline } ∧
      (Node.blocksOf t.outline).Perm t.blocks ∧
      ∃ pieces, Piece.cut (t.source write) = .ok pieces ∧
        (Spacing.apply ⟨false, false⟩ pieces).filterMap Part.opening? =
          (Node.blocksOf t.outline).map (·.name) := by
  obtain ⟨pieces, hcut, hsentence⟩ := (lexes_source ht hwrite).cut
  have hperm := blocksOf_outline_perm ht
  refine ⟨?_, hperm, pieces, hcut, hsentence.openings⟩
  refine parse_eq_ok_iff_sentence.mpr ⟨pieces, t.parent, t.outline, ?_, hsentence, ?_, ?_⟩
  · rwa [String.toList_ofList]
  · exact (hperm.map _).nodup_iff.mpr ht.distinct
  · rw [ofOutline, elements_outline]

theorem holdsNoEndraw_of_not_mem (h : '%' ∉ s) : HoldsNoEndraw s := by
  rintro l _ r hs ⟨-, -, -, -⟩
  exact h (by rw [hs]; simp)

/-- A page with a text that looks like an output, a string with a closing in it, and blocks in each
other. Its blocks are not in the order of their slots. -/
def nestedPage : Template where
  name := "page"
  parent := some "base"
  layout := [.text "\x7b\x7b x \x7d\x7d\n", .slot "outer",
    .choice [(.var "a", [.slot "aside"])] [.assign "n" (.literal (.number (.int 1)))]]
  blocks := [⟨"aside", true, []⟩, ⟨"inner", false, [.super]⟩,
    ⟨"outer", false, [.loop "x" (.var "xs") [.output (.literal (.text "%\x7d")), .slot "inner"]]⟩]

theorem wellFormed_nestedPage : nestedPage.WellFormed where
  parent := by
    rintro p ⟨⟩
    decide
  names := by decide
  distinct := by decide
  slots := by decide
  reached := by
    have houter : nestedPage.Reaches "outer" := .layout (by decide)
    have hinner : nestedPage.Reaches "inner" := .body houter ⟨_, rfl, by decide⟩
    have haside : nestedPage.Reaches "aside" := .layout (by decide)
    intro b hb
    simp only [nestedPage, List.mem_cons, List.not_mem_nil, or_false] at hb
    rcases hb with rfl | rfl | rfl
    · exact haside
    · exact hinner
    · exact houter
  super := by decide
  layout := by
    have hvar : Expressible (.var "a") := ⟨by decide, by decide⟩
    have hone : Expressible (.literal (.number (.int 1))) := ⟨by decide, by decide⟩
    have htext : HoldsNoEndraw "\x7b\x7b x \x7d\x7d\n".toList :=
      holdsNoEndraw_of_not_mem (by decide)
    exact ⟨⟨by decide, htext⟩, trivial, ⟨by simp, ⟨hvar, ⟨trivial, trivial⟩, trivial⟩,
      ⟨by decide, hone⟩, trivial⟩, trivial⟩
  bodies := by
    have hxs : Expressible (.var "xs") := ⟨by decide, by decide⟩
    have hclosing : Expressible (.literal (.text "%\x7d")) := ⟨by decide, by decide⟩
    intro b hb
    simp only [nestedPage, List.mem_cons, List.not_mem_nil, or_false] at hb
    rcases hb with rfl | rfl | rfl
    · exact trivial
    · exact ⟨trivial, trivial⟩
    · exact ⟨⟨by decide, hxs, hclosing, trivial, trivial⟩, trivial⟩

/-- The blocks of the page come back in the order in which they are opened. -/
theorem parse_written_nestedPage :
    nestedPage.WellFormed ∧ Spells Expr.source ∧
      parse ⟨false, false⟩ "page" (String.ofList (nestedPage.source Expr.source)) =
        .ok { nestedPage with blocks := nestedPage.blocks.reverse } := by
  have hsource : Spells Expr.source := fun e _ => Token.spells_spaced e.tokens
  have hblocks : Node.blocksOf nestedPage.outline = nestedPage.blocks.reverse := by
    have hinner : (nestedPage.blockNode ["outer"] "inner").blocks = _ := blocks_blockNode rfl rfl
    have houter : (nestedPage.blockNode [] "outer").blocks = _ := blocks_blockNode rfl rfl
    have haside : (nestedPage.blockNode [] "aside").blocks = _ := blocks_blockNode rfl rfl
    rw [outline, blocksOf_inlineElements]
    show (nestedPage.blockNode [] "outer").blocks ++
      ((nestedPage.blockNode [] "aside").blocks ++ []) = _
    rw [houter, haside]
    show _ :: ((nestedPage.blockNode ["outer"] "inner").blocks ++ []) ++ _ = _
    rw [hinner]
    rfl
  obtain ⟨hparse, -, -⟩ := parse_written wellFormed_nestedPage hsource
  rw [hblocks] at hparse
  exact ⟨wellFormed_nestedPage, hsource, hparse⟩

end ClassScribe.Template
