import ClassScribe.Proofs.Template.Likeness
import ClassScribe.Proofs.Template.Relating
import ClassScribe.Proofs.Template.Statement

/-! # Texts in one piece or in more

A text that stands in one piece in a row of elements, and in two in another row, makes no difference:
`SameRows` is the least relation of rows that has this and is kept in a row, in loops and in choices. Such
rows have the same text in every scope (`SameRows.render_eq`), and templates with such rows are composed
alike and have the same texts (`render_of_same`). -/

namespace ClassScribe.Template

/-- Rows of elements that are the same but for how their texts are divided. -/
inductive SameRows : RowRelation
  | refl (es : List Element) : SameRows es es
  | symm {es fs : List Element} : SameRows es fs → SameRows fs es
  | trans {es fs gs : List Element} : SameRows es fs → SameRows fs gs → SameRows es gs
  | append {es es' fs fs' : List Element} :
      SameRows es es' → SameRows fs fs' → SameRows (es ++ fs) (es' ++ fs')
  | divide (s t : String) : SameRows [.text (s ++ t)] [.text s, .text t]
  | loop (target : String) (items : Expr) {body body' : List Element} :
      SameRows body body' → SameRows [.loop target items body] [.loop target items body']
  | branch (before after : List (Expr × List Element)) (condition : Expr) (otherwise : List Element)
      {body body' : List Element} : SameRows body body' →
      SameRows [.choice (before ++ (condition, body) :: after) otherwise]
        [.choice (before ++ (condition, body') :: after) otherwise]
  | otherwise (branches : List (Expr × List Element)) {body body' : List Element} :
      SameRows body body' → SameRows [.choice branches body] [.choice branches body']

/-- Branches with the same conditions, whose bodies are the same but for how their texts are divided. -/
def SameBranches : List (Expr × List Element) → List (Expr × List Element) → Prop :=
  List.Forall₂ fun b b' => b.1 = b'.1 ∧ SameRows b.2 b'.2

theorem SameRows.choice {branches branches' : List (Expr × List Element)} {body body' : List Element}
    (hbranches : SameBranches branches branches') (hbody : SameRows body body') :
    SameRows [.choice branches body] [.choice branches' body'] := by
  -- one branch after the other, behind those that have been exchanged
  suffices h : ∀ before,
      SameRows [.choice (before ++ branches) body] [.choice (before ++ branches') body] from
    (h []).trans (.otherwise branches' hbody)
  induction hbranches with
  | nil => exact fun before => .refl _
  | @cons b b' rest rest' hb _ ih =>
      intro before
      obtain ⟨condition, content⟩ := b
      obtain ⟨_, content'⟩ := b'
      obtain ⟨rfl, hcontent⟩ := hb
      have hrest := ih (before ++ [(condition, content')])
      rw [List.append_assoc, List.append_assoc] at hrest
      exact (SameRows.branch before rest condition body hcontent).trans hrest

/-! ### Rendering -/

section
variable {site : Site}

theorem renderBranches_of_eq {body body' : List Element} (before after : List (Expr × List Element))
    (condition : Expr) (scope : Scope)
    (h : renderElements site scope body = renderElements site scope body') :
    renderBranches site scope (before ++ (condition, body) :: after) =
      renderBranches site scope (before ++ (condition, body') :: after) := by
  induction before with
  | nil =>
      show (site.eval scope condition >>= _) = (site.eval scope condition >>= _)
      rw [h]
  | cons branch before ih => rw [List.cons_append, List.cons_append, renderBranches, renderBranches, ih]

/-- How texts are divided does not count for the text of a row. -/
theorem SameRows.render_eq {es fs : List Element} (h : SameRows es fs) (site : Site) (scope : Scope) :
    renderElements site scope es = renderElements site scope fs := by
  induction h generalizing scope with
  | refl => rfl
  | symm _ ih => exact (ih scope).symm
  | trans _ _ ih ih' => exact (ih scope).trans (ih' scope)
  | append _ _ ih ih' =>
      rw [renderElements_append_bind, renderElements_append_bind, ih]
      simp only [ih']
  | divide s t =>
      show Except.ok ((s ++ t) ++ "", scope.frame) = Except.ok (s ++ (t ++ ""), scope.frame)
      rw [String.append_assoc]
  | loop target items _ ih =>
      rw [renderElements_singleton, renderElements_singleton, renderElement, renderElement]
      simp only [ih]
  | branch before after condition otherwise _ ih =>
      rw [renderElements_singleton, renderElements_singleton, renderElement, renderElement,
        renderBranches_of_eq before after condition scope (ih scope)]
  | otherwise branches _ ih =>
      rw [renderElements_singleton, renderElements_singleton, renderElement, renderElement]
      simp only [ih]

end

/-! ### Bodies in the place of `super()` -/

theorem branchesCallSuper_append (bs cs : List (Expr × List Element)) :
    branchesCallSuper (bs ++ cs) = (branchesCallSuper bs || branchesCallSuper cs) := by
  induction bs with
  | nil => rfl
  | cons b bs ih => rw [List.cons_append, branchesCallSuper, ih, branchesCallSuper, Bool.or_assoc]

theorem spliceBranches_append (below : List Element) (bs cs : List (Expr × List Element)) :
    spliceBranches below (bs ++ cs) = spliceBranches below bs ++ spliceBranches below cs := by
  induction bs with
  | nil => rfl
  | cons b bs ih => rw [List.cons_append, spliceBranches, ih, spliceBranches, List.cons_append]

theorem SameRows.callsSuper_eq {es fs : List Element} (h : SameRows es fs) :
    callsSuper es = callsSuper fs := by
  induction h with
  | refl => rfl
  | symm _ ih => exact ih.symm
  | trans _ _ ih ih' => exact ih.trans ih'
  | append _ _ ih ih' => rw [callsSuper_append, callsSuper_append, ih, ih']
  | divide => rfl
  | loop _ _ _ ih =>
      rw [callsSuper_singleton, callsSuper_singleton, elementCallsSuper, elementCallsSuper, ih]
  | branch before after condition otherwise _ ih =>
      rw [callsSuper_singleton, callsSuper_singleton, elementCallsSuper, elementCallsSuper,
        branchesCallSuper_append, branchesCallSuper_append, branchesCallSuper, branchesCallSuper, ih]
  | otherwise branches _ ih =>
      rw [callsSuper_singleton, callsSuper_singleton, elementCallsSuper, elementCallsSuper, ih]

theorem SameRows.splice_rows {es fs : List Element} (h : SameRows es fs) (below : List Element) :
    SameRows (splice below es) (splice below fs) := by
  induction h with
  | refl es => exact .refl _
  | symm _ ih => exact ih.symm
  | trans _ _ ih ih' => exact ih.trans ih'
  | append _ _ ih ih' =>
      rw [splice_append, splice_append]
      exact ih.append ih'
  | divide s t => exact .divide s t
  | loop target items _ ih =>
      rw [splice_singleton, splice_singleton]
      exact .loop target items ih
  | branch before after condition otherwise _ ih =>
      rw [splice_singleton, splice_singleton, spliceElement, spliceElement, spliceBranches_append,
        spliceBranches_append]
      exact .branch _ _ condition _ ih
  | otherwise branches _ ih =>
      rw [splice_singleton, splice_singleton]
      exact .otherwise _ ih

mutual
theorem sameRows_spliceElement {below below' : List Element} (h : SameRows below below') :
    ∀ e, SameRows (spliceElement below e) (spliceElement below' e)
  | .super => h
  | .choice branches otherwise =>
      .choice (sameBranches_spliceBranches h branches) (sameRows_splice h otherwise)
  | .loop target items body => .loop target items (sameRows_splice h body)
  | .text _ | .output _ | .assign _ _ | .slot _ => .refl _
theorem sameRows_splice {below below' : List Element} (h : SameRows below below') :
    ∀ es, SameRows (splice below es) (splice below' es)
  | [] => .refl _
  | e :: rest => (sameRows_spliceElement h e).append (sameRows_splice h rest)
theorem sameBranches_spliceBranches {below below' : List Element} (h : SameRows below below') :
    ∀ bs, SameBranches (spliceBranches below bs) (spliceBranches below' bs)
  | [] => .nil
  | (_, body) :: rest => .cons ⟨rfl, sameRows_splice h body⟩ (sameBranches_spliceBranches h rest)
end

theorem splices_sameRows : RowRelation.Splices SameRows where
  nil := .refl _
  calls := SameRows.callsSuper_eq
  splice := fun hbelow hrows => (sameRows_splice hbelow _).trans (hrows.splice_rows _)

/-! ### Composed templates -/

section
variable {r r' : Resolved}

/-- The slots of two composed templates with the same rows have the same texts. The induction is on the
blocks that are not being rendered: inside the body of a block there is one less. -/
theorem renderSlot_of_same (h : r.Related SameRows r') (className : String) :
    ∀ (k : Nat) (active : List String), (idle r active).length = k →
      renderSlot r className active = renderSlot r' className active := by
  intro k
  induction k using Nat.strong_induction_on with
  | _ k ih =>
      intro active hk
      have hname : r.name = r'.name := congrArg Chain.leaf h.chain
      funext scope name
      by_cases hmem : name ∈ active
      · rw [renderSlot_of_mem hmem, renderSlot_of_mem hmem, hname]
      · obtain ⟨hnone, hnone'⟩ | ⟨b, b', hb, hb', hrel⟩ := h.block? name
        · rw [renderSlot_of_no_block hmem hnone, renderSlot_of_no_block hmem hnone']
        · have hless : (idle r (name :: active)).length < k := by
            rw [← hk]
            exact idle_cons_lt hb (by simpa using hmem)
          have hsite : r.site className (name :: active) = r'.site className (name :: active) := by
            unfold Resolved.site
            rw [ih _ hless (name :: active) rfl, hname]
          rw [renderSlot_of_block hmem hb, renderSlot_of_block hmem hb', hsite, hrel.body.render_eq]

/-- Two composed templates with the same rows have the same text for every class and context, or fail with
the same error. -/
theorem render_of_same (h : r.Related SameRows r') (className : String) (context : Frame) :
    render r className context = render r' className context := by
  have hname : r.name = r'.name := congrArg Chain.leaf h.chain
  have hsite : r.site className [] = r'.site className [] := by
    unfold Resolved.site
    rw [renderSlot_of_same h className _ [] rfl, hname]
  show (renderElements (r.site className []) ⟨[], [context]⟩ r.layout >>= _) =
    (renderElements (r'.site className []) ⟨[], [context]⟩ r'.layout >>= _)
  rw [hsite, h.layout.render_eq]

end

/-! ### Reading parts -/

/-- Parts that are the same but for how their texts are divided, and for their lines. -/
inductive SameParts : List Part → List Part → Prop
  | nil : SameParts [] []
  | text (s : List Char) {ps qs : List Part} :
      SameParts ps qs → SameParts (.text s :: ps) (.text s :: qs)
  | divided (s t : List Char) {ps qs : List Part} :
      SameParts ps qs → SameParts (.text (s ++ t) :: ps) (.text s :: .text t :: qs)
  | output (source : List Char) (line line' : Nat) {ps qs : List Part} :
      SameParts ps qs → SameParts (.output source line :: ps) (.output source line' :: qs)
  | statement (source : List Char) (line line' : Nat) {ps qs : List Part} :
      SameParts ps qs → SameParts (.statement source line :: ps) (.statement source line' :: qs)

theorem SameParts.refl : ∀ ps, SameParts ps ps
  | [] => .nil
  | .text s :: ps => .text s (refl ps)
  | .output source line :: ps => .output source line line (refl ps)
  | .statement source line :: ps => .statement source line line (refl ps)

theorem SameParts.append {ps qs ps' qs' : List Part} (h : SameParts ps qs) (h' : SameParts ps' qs') :
    SameParts (ps ++ ps') (qs ++ qs') := by
  induction h with
  | nil => exact h'
  | text s _ ih => exact .text s ih
  | divided s t _ ih => exact .divided s t ih
  | output source line line' _ ih => exact .output source line line' ih
  | statement source line line' _ ih => exact .statement source line line' ih

/-- Two constructs with the same rows. -/
inductive Construct.Same : Construct → Construct → Prop
  | block (name : String) : Same (.block name) (.block name)
  | loop (target : String) (items : Expr) : Same (.loop target items) (.loop target items)
  | branch {done done' : List (Expr × List Element)} (condition : Expr) :
      SameBranches done done' → Same (.branch done condition) (.branch done' condition)
  | otherwise {branches branches' : List (Expr × List Element)} :
      SameBranches branches branches' → Same (.otherwise branches) (.otherwise branches')

/-- Two open constructs with the same rows. -/
structure Opened.Same (o o' : Opened) : Prop where
  construct : o.construct.Same o'.construct
  before : SameRows o.before o'.before

/-- What has been read of two templates with the same rows. -/
structure Progress.Same (p p' : Progress) : Prop where
  parent : p.parent = p'.parent
  blocks : List.Forall₂ (Block.Related SameRows) p.blocks p'.blocks
  opened : List.Forall₂ Opened.Same p.opened p'.opened
  elements : SameRows p.elements p'.elements

theorem SameBranches.refl (branches : List (Expr × List Element)) : SameBranches branches branches :=
  List.forall₂_same.mpr fun _ _ => ⟨rfl, .refl _⟩

theorem SameBranches.symm {branches branches' : List (Expr × List Element)}
    (h : SameBranches branches branches') : SameBranches branches' branches :=
  (h.imp fun _ _ hb => ⟨hb.1.symm, hb.2.symm⟩).flip

theorem SameBranches.concat {done done' : List (Expr × List Element)} {body body' : List Element}
    (hdone : SameBranches done done') (condition : Expr) (hbody : SameRows body body') :
    SameBranches (done ++ [(condition, body)]) (done' ++ [(condition, body')]) :=
  List.rel_append hdone (.cons ⟨rfl, hbody⟩ .nil)

theorem Construct.Same.symm {c c' : Construct} (h : c.Same c') : c'.Same c := by
  cases h with
  | block name => exact .block name
  | loop target items => exact .loop target items
  | branch condition h => exact .branch condition h.symm
  | otherwise h => exact .otherwise h.symm

namespace Progress
variable {p p' q : Progress}

theorem Same.symm (h : p.Same p') : p'.Same p where
  parent := h.parent.symm
  blocks := (h.blocks.imp fun _ _ hb => ⟨hb.name.symm, hb.required.symm, hb.body.symm⟩).flip
  opened := (h.opened.imp fun _ _ ho => ⟨ho.construct.symm, ho.before.symm⟩).flip
  elements := h.elements.symm

theorem Same.push (h : p.Same p') (e : Element) : (p.push e).Same (p'.push e) :=
  ⟨h.parent, h.blocks, h.opened, h.elements.append (.refl [e])⟩

theorem Same.enter (h : p.Same p') {c c' : Construct} (hc : c.Same c') (line line' : Nat) :
    (p.enter c line).Same (p'.enter c' line') :=
  ⟨h.parent, h.blocks, .cons ⟨hc, h.elements⟩ h.opened, .refl []⟩

theorem Same.leave (h : p.Same p') {outer outer' : List Opened} {before before' : List Element}
    {e e' : Element} (houter : List.Forall₂ Opened.Same outer outer') (hbefore : SameRows before before')
    (he : SameRows [e] [e']) : (p.leave outer before e).Same (p'.leave outer' before' e') :=
  ⟨h.parent, h.blocks, houter, hbefore.append he⟩

theorem Same.setBody (h : p.Same p') (name : String) {body body' : List Element}
    (hbody : SameRows body body') :
    Same { p with blocks := Progress.setBody name body p.blocks }
      { p' with blocks := Progress.setBody name body' p'.blocks } := by
  refine ⟨h.parent, ?_, h.opened, h.elements⟩
  refine List.rel_map ?_ h.blocks
  intro b b' hb
  dsimp only
  by_cases hn : b.name = name
  · rw [if_pos hn, if_pos (hb.name ▸ hn)]
    exact ⟨hb.name, hb.required, hbody⟩
  · rw [if_neg hn, if_neg (hb.name ▸ hn)]
    exact hb

theorem Same.insideBlock (h : p.Same p') : p.insideBlock = p'.insideBlock := by
  have hopened := h.opened
  unfold Progress.insideBlock
  generalize p.opened = opened at hopened
  generalize p'.opened = opened' at hopened
  induction hopened with
  | nil => rfl
  | @cons o o' _ _ ho _ ih =>
      obtain ⟨construct, line, before⟩ := o
      obtain ⟨construct', line', before'⟩ := o'
      rw [List.any_cons, List.any_cons, ih]
      cases ho.construct <;> rfl

theorem Same.hasBlock (h : p.Same p') (name : String) :
    p.blocks.any (·.name == name) = p'.blocks.any (·.name == name) := by
  have hblocks := h.blocks
  generalize p.blocks = blocks at hblocks
  generalize p'.blocks = blocks' at hblocks
  induction hblocks with
  | nil => rfl
  | cons hb _ ih => rw [List.any_cons, List.any_cons, ih, hb.name]

theorem Same.innermost (h : p.Same p') {c : Construct} {line : Nat} {before : List Element}
    {outer : List Opened} (ho : p.opened = ⟨c, line, before⟩ :: outer) :
    ∃ c' line' before' outer', p'.opened = ⟨c', line', before'⟩ :: outer' ∧ c.Same c' ∧
      SameRows before before' ∧ List.Forall₂ Opened.Same outer outer' := by
  have hopened := h.opened
  rw [ho] at hopened
  obtain ⟨⟨c', line', before'⟩, outer', hfirst, hrest, heq⟩ := List.forall₂_cons_left_iff.mp hopened
  exact ⟨c', line', before', outer', heq, hfirst.construct, hfirst.before, hrest⟩

end Progress

section
variable {p p' q : Progress} {st : Statement} {line : Nat}

/-- A statement that has an effect on what has been read has the same effect if texts were divided
otherwise. -/
theorem Moves.same (h : Moves line st p q) (hp : p.Same p') (line' : Nat) :
    ∃ q', Moves line' st p' q' ∧ q.Same q' := by
  cases h with
  | parent ho hnone =>
      have ho' : p'.opened = [] := List.forall₂_nil_left_iff.mp (ho ▸ hp.opened)
      exact ⟨_, .parent ho' (hp.parent ▸ hnone), ⟨rfl, hp.blocks, hp.opened, hp.elements⟩⟩
  | @block _ name required hn =>
      refine ⟨_, .block (by rw [← hp.hasBlock, hn]), ?_⟩
      have hblocks : List.Forall₂ (Block.Related SameRows) (p.blocks ++ [Block.mk name required []])
          (p'.blocks ++ [Block.mk name required []]) :=
        List.rel_append hp.blocks (.cons ⟨rfl, rfl, .refl []⟩ .nil)
      have hsame : Progress.Same { p with blocks := p.blocks ++ [Block.mk name required []] }
          { p' with blocks := p'.blocks ++ [Block.mk name required []] } :=
        ⟨hp.parent, hblocks, hp.opened, hp.elements⟩
      exact hsame.enter (.block name) line line'
  | @loop _ target items => exact ⟨_, .loop, hp.enter (.loop target items) line line'⟩
  | @branch _ condition => exact ⟨_, .branch, hp.enter (.branch condition .nil) line line'⟩
  | assign => exact ⟨_, .assign, hp.push _⟩
  | @endblock _ _ name _ _ _ ho hlabel =>
      obtain ⟨_, _, _, _, ho', hc, hbefore, houter⟩ := hp.innermost ho
      cases hc
      exact ⟨_, .endblock ho' hlabel, (hp.setBody name hp.elements).leave houter hbefore (.refl _)⟩
  | @endfor _ target items _ _ _ ho =>
      obtain ⟨_, _, _, _, ho', hc, hbefore, houter⟩ := hp.innermost ho
      cases hc
      exact ⟨_, .endfor ho', hp.leave houter hbefore (.loop target items hp.elements)⟩
  | @elif _ _ condition next _ _ _ ho =>
      obtain ⟨_, _, _, _, ho', hc, hbefore, houter⟩ := hp.innermost ho
      cases hc with
      | branch _ hdone =>
          have hbranches := hdone.concat condition hp.elements
          exact ⟨_, .elif ho', ⟨hp.parent, hp.blocks, .cons ⟨.branch next hbranches, hbefore⟩ houter,
            .refl []⟩⟩
  | @otherwise _ _ condition _ _ _ ho =>
      obtain ⟨_, _, _, _, ho', hc, hbefore, houter⟩ := hp.innermost ho
      cases hc with
      | branch _ hdone =>
          have hbranches := hdone.concat condition hp.elements
          exact ⟨_, .otherwise ho', ⟨hp.parent, hp.blocks, .cons ⟨.otherwise hbranches, hbefore⟩ houter,
            .refl []⟩⟩
  | @endifBranch _ _ condition _ _ _ ho =>
      obtain ⟨_, _, _, _, ho', hc, hbefore, houter⟩ := hp.innermost ho
      cases hc with
      | branch _ hdone =>
          have hbranches := hdone.concat condition hp.elements
          exact ⟨_, .endifBranch ho', hp.leave houter hbefore (.choice hbranches (.refl []))⟩
  | endifOtherwise ho =>
      obtain ⟨_, _, _, _, ho', hc, hbefore, houter⟩ := hp.innermost ho
      cases hc with
      | otherwise hbranches =>
          exact ⟨_, .endifOtherwise ho', hp.leave houter hbefore (.choice hbranches hp.elements)⟩

theorem step_statement_same (hp : p.Same p') (source : List Char) (line line' : Nat) :
    Alike (fun _ _ => True) Progress.Same (p.step (.statement source line))
      (p'.step (.statement source line')) := by
  apply Alike.of_ok
  · intro q hq
    obtain ⟨st, passed, hsays, hmove⟩ := step_statement_iff.mp hq
    obtain ⟨q', hmove', hsame⟩ := hmove.same hp line'
    exact ⟨q', step_statement_iff.mpr ⟨st, passed, hsays, hmove'⟩, hsame⟩
  · intro q' hq'
    obtain ⟨st, passed, hsays, hmove'⟩ := step_statement_iff.mp hq'
    obtain ⟨q, hmove, -⟩ := hmove'.same hp.symm line
    exact ⟨q, step_statement_iff.mpr ⟨st, passed, hsays, hmove⟩⟩

theorem step_output_same (hp : p.Same p') (source : List Char) (line line' : Nat) :
    Alike (fun _ _ => True) Progress.Same (p.step (.output source line))
      (p'.step (.output source line')) := by
  have hinside := hp.insideBlock
  apply Alike.of_ok
  · intro q hq
    rcases step_output_iff.mp hq with ⟨hsource, hblock, rfl⟩ | ⟨hsource, e, he, rfl⟩
    · exact ⟨_, step_output_iff.mpr (.inl ⟨hsource, hinside ▸ hblock, rfl⟩), hp.push _⟩
    · exact ⟨_, step_output_iff.mpr (.inr ⟨hsource, e, he, rfl⟩), hp.push _⟩
  · intro q' hq'
    rcases step_output_iff.mp hq' with ⟨hsource, hblock, -⟩ | ⟨hsource, e, he, -⟩
    · exact ⟨_, step_output_iff.mpr (.inl ⟨hsource, hinside ▸ hblock, rfl⟩)⟩
    · exact ⟨_, step_output_iff.mpr (.inr ⟨hsource, e, he, rfl⟩)⟩

theorem SameParts.run {ps qs : List Part} (h : SameParts ps qs) (hp : p.Same p') :
    Alike (fun _ _ => True) Progress.Same (p.run ps) (p'.run qs) := by
  induction h generalizing p p' with
  | nil => exact .ok hp
  | text s _ ih => exact ih (hp.push _)
  | @divided s t ps qs _ ih =>
      have hrow : SameRows [.text (String.ofList (s ++ t))]
          [.text (String.ofList s), .text (String.ofList t)] := by
        rw [String.ofList_append]
        exact .divide _ _
      have hall := hp.elements.append hrow
      rw [List.append_cons p'.elements] at hall
      have hsame : Progress.Same (p.push (.text (String.ofList (s ++ t))))
          ((p'.push (.text (String.ofList s))).push (.text (String.ofList t))) :=
        ⟨hp.parent, hp.blocks, hp.opened, hall⟩
      exact ih hsame
  | output source line line' _ ih =>
      exact (step_output_same hp source line line').bind fun _ _ hq => ih hq
  | statement source line line' _ ih =>
      exact (step_statement_same hp source line line').bind fun _ _ hq => ih hq

theorem finish_same (hp : p.Same p') (name : String) :
    Alike (fun _ _ => True) (Related SameRows) (p.finish name) (p'.finish name) := by
  have hopened := hp.opened
  unfold Progress.finish
  generalize p.opened = opened at hopened
  generalize p'.opened = opened' at hopened
  cases hopened with
  | nil => exact .ok ⟨rfl, hp.parent, hp.elements, hp.blocks⟩
  | cons _ _ => exact .error trivial

end

/-- A template whose parts are the same is read with the same rows, or is read no more. -/
theorem SameParts.template {ps qs : List Part} (h : SameParts ps qs) (name : String) :
    Alike (fun _ _ => True) (Related SameRows) (Progress.start.run ps >>= (·.finish name))
      (Progress.start.run qs >>= (·.finish name)) := by
  have hstart : Progress.start.Same Progress.start := ⟨rfl, .nil, .nil, .refl []⟩
  exact (h.run hstart).bind fun _ _ hp => finish_same hp name

end ClassScribe.Template
