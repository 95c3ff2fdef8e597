import ClassScribe.Proofs.Template.Statement

/-! # What the parser accepts

A row of parts is read to the end just if it is a sentence of the grammar whose blocks have different
names, and the template is that of the outline that the sentence says (`run_eq_ok_iff`). One way round
the parser follows a derivation (`Phrase.Says.yields`); the other way round the derivation is put
together along the steps of the parser, where each open construct keeps the row that has been read of it
(`Reads.of_step`). -/

namespace ClassScribe.Template

/-! ### What has been read -/

namespace Progress

theorem run_cons {p q : Progress} {part : Part} (h : p.step part = .ok q) (rest : List Part) :
    p.run (part :: rest) = q.run rest := by
  show (p.step part >>= fun p => p.run rest) = q.run rest
  rw [h]
  rfl

/-- What has been read, with further blocks and elements. -/
def extend (p : Progress) (blocks : List Block) (elements : List Element) : Progress :=
  { p with blocks := p.blocks ++ blocks, elements := p.elements ++ elements }

theorem extend_extend (p : Progress) (bs cs : List Block) (es fs : List Element) :
    (p.extend bs es).extend cs fs = p.extend (bs ++ cs) (es ++ fs) := by
  unfold extend
  simp only [List.append_assoc]

theorem extend_nil (p : Progress) : p.extend [] [] = p := by
  unfold extend
  rw [List.append_nil, List.append_nil]

theorem setBody_eq {name : String} {required : Bool} {body : List Element} {before after : List Block}
    (h : ((before ++ Block.mk name required body :: after).map (·.name)).Nodup) :
    setBody name body (before ++ [Block.mk name required []] ++ after) =
      before ++ Block.mk name required body :: after := by
  have hother : ∀ bs : List Block, (∀ b ∈ bs, b.name ≠ name) → setBody name body bs = bs := by
    intro bs hbs
    unfold setBody
    refine (List.map_congr_left fun b hb => ?_).trans (List.map_id bs)
    exact if_neg (hbs b hb)
  rw [List.map_append, List.map_cons, List.nodup_append, List.nodup_cons] at h
  obtain ⟨-, ⟨hafter, -⟩, hbefore⟩ := h
  have hb : ∀ b ∈ before, b.name ≠ name := by
    intro b hb
    exact hbefore b.name (List.mem_map_of_mem hb) name List.mem_cons_self
  have ha : ∀ b ∈ after, b.name ≠ name := by
    intro b hb heq
    exact hafter (List.mem_map.mpr ⟨b, hb, heq⟩)
  have h1 := hother before hb
  have h2 := hother after ha
  unfold setBody at h1 h2 ⊢
  rw [List.map_append, List.map_append, h1, h2, List.append_assoc]
  congr 1
  simp

end Progress

open Progress

/-- Blocks of different names. -/
abbrev Distinct (blocks : List Block) : Prop := (blocks.map (·.name)).Nodup

theorem Distinct.left {bs cs ds : List Block} (h : Distinct (bs ++ (cs ++ ds))) :
    Distinct (bs ++ cs) := by
  rw [← List.append_assoc] at h
  unfold Distinct at h ⊢
  rw [List.map_append] at h
  exact (List.nodup_append.mp h).1

variable {allowed : List (List Char) → Prop} {inside : Bool} {p q : Progress} {line line' : Nat}
  {source close : List Char} {ns ms : List Node} {ps qs rs : List Part} {bs cs ds : List Block}
  {es fs : List Element} {condition : Expr} {branches : List (Expr × List Element)}

/-! ### From sentences to templates -/

theorem step_of_written {st : Statement} (h : st.Written allowed source) (hmove : Moves line st p q) :
    p.step (.statement source line) = .ok q := by
  obtain ⟨passed, hsays, -⟩ := h
  exact step_statement_iff.mpr ⟨st, passed, hsays, hmove⟩

theorem Distinct.any_eq_false {b : Block} (h : Distinct (bs ++ b :: cs)) :
    bs.any (·.name == b.name) = false := by
  rw [← Bool.not_eq_true, List.any_eq_true]
  rintro ⟨c, hc, hname⟩
  unfold Distinct at h
  rw [List.map_append, List.nodup_append] at h
  exact h.2.2 c.name (List.mem_map_of_mem hc) b.name (by simp) (beq_iff_eq.mp hname)

/-- Parts from which the parser gets blocks and elements, whatever stands behind them. -/
def Yields (inside : Bool) (parts : List Part) (blocks : List Block) (elements : List Element) : Prop :=
  ∀ (p : Progress) (rest : List Part), p.insideBlock = inside → Distinct (p.blocks ++ blocks) →
    p.run (parts ++ rest) = (p.extend blocks elements).run rest

/-- Parts that complete a choice behind the body of a condition, with blocks, further branches and a
last body. -/
def Completes (inside : Bool) (parts : List Part) (blocks : List Block)
    (branches : List (Expr × List Element)) (otherwise : List Element) : Prop :=
  ∀ (p : Progress) (rest : List Part) (done : List (Expr × List Element)) (condition : Expr)
    (opening : Nat) (before : List Element) (outer : List Opened),
    p.opened = ⟨.branch done condition, opening, before⟩ :: outer → p.insideBlock = inside →
    Distinct (p.blocks ++ blocks) →
    p.run (parts ++ rest) = ({ p with blocks := p.blocks ++ blocks }.leave outer before
      (.choice (done ++ (condition, p.elements) :: branches) otherwise)).run rest

namespace Yields

theorem nil : Yields inside [] [] [] := by
  intro p rest _ _
  rw [extend_nil]
  rfl

theorem append (h : Yields inside ps bs es) (h' : Yields inside qs cs fs) :
    Yields inside (ps ++ qs) (bs ++ cs) (es ++ fs) := by
  intro p rest hinside hd
  rw [List.append_assoc, h p _ hinside hd.left, h' (p.extend bs es) rest hinside ?_, extend_extend]
  show Distinct (p.blocks ++ bs ++ cs)
  rwa [List.append_assoc]

theorem of_step {part : Part} {e : Element}
    (h : ∀ p : Progress, p.insideBlock = inside → p.step part = .ok (p.push e)) :
    Yields inside [part] [] [e] := by
  intro p rest hinside _
  have hpush : p.push e = p.extend [] [e] := by simp [push, extend]
  rw [← hpush]
  exact run_cons (h p hinside) rest

theorem loop {target : String} {items : Expr}
    (hopen : (Statement.loop target items).Written allowed source)
    (hbody : Yields inside ps bs es) (hclose : Statement.endfor.Written allowed close)
    (hrest : Yields inside qs cs fs) :
    Yields inside (.statement source line :: (ps ++ .statement close line' :: qs)) (bs ++ cs)
      (.loop target items es :: fs) := by
  have h : Yields inside (.statement source line :: (ps ++ [.statement close line'])) bs
      [.loop target items es] := by
    intro p rest hinside hd
    rw [List.cons_append, List.append_assoc, run_cons (step_of_written hopen .loop),
      hbody (p.enter (.loop target items) line) _ hinside hd]
    refine (run_cons (step_of_written hclose (.endfor rfl)) rest).trans ?_
    simp [leave, extend, enter]
  simpa using h.append hrest

theorem block {name : String} {required : Bool} {label : Option String}
    (hopen : (Statement.block name required).Written allowed source) (hbody : Yields true ps bs es)
    (hlabel : ∀ l ∈ label, l = name) (hclose : (Statement.endblock label).Written allowed close)
    (hrest : Yields inside qs cs fs) :
    Yields inside (.statement source line :: (ps ++ .statement close line' :: qs))
      (⟨name, required, es⟩ :: bs ++ cs) (.slot name :: fs) := by
  have h : Yields inside (.statement source line :: (ps ++ [.statement close line']))
      (⟨name, required, es⟩ :: bs) [.slot name] := by
    intro p rest _ hd
    let q : Progress :=
      { p with blocks := p.blocks ++ [Block.mk name required []] }.enter (.block name) line
    have hstep : p.step (.statement source line) = .ok q :=
      step_of_written hopen (.block hd.any_eq_false)
    have hd' : Distinct (q.blocks ++ bs) := by
      unfold Distinct at hd ⊢
      simpa [q, enter] using hd
    rw [List.cons_append, List.append_assoc, run_cons hstep, hbody q _ rfl hd']
    refine (run_cons (step_of_written hclose (.endblock rfl hlabel)) rest).trans ?_
    have hset : setBody name (q.extend bs es).elements (q.extend bs es).blocks =
        p.blocks ++ ⟨name, required, es⟩ :: bs := setBody_eq hd
    rw [hset]
    simp [leave, extend, q, enter]
  simpa using h.append hrest

theorem choice {other : List Element}
    (hopen : (Statement.branch condition).Written allowed source)
    (hbody : Yields inside ps bs es) (htail : Completes inside qs cs branches other)
    (hrest : Yields inside rs ds fs) :
    Yields inside (.statement source line :: (ps ++ (qs ++ rs))) (bs ++ cs ++ ds)
      (.choice ((condition, es) :: branches) other :: fs) := by
  have h : Yields inside (.statement source line :: (ps ++ qs)) (bs ++ cs)
      [.choice ((condition, es) :: branches) other] := by
    intro p rest hinside hd
    let q : Progress := (p.enter (.branch [] condition) line).extend bs es
    have hd' : Distinct (q.blocks ++ cs) := by
      show Distinct (p.blocks ++ bs ++ cs)
      rwa [List.append_assoc]
    rw [List.cons_append, List.append_assoc, run_cons (step_of_written hopen .branch),
      hbody (p.enter (.branch [] condition) line) _ hinside hd.left]
    refine (htail q rest [] condition line p.elements p.opened rfl hinside hd').trans ?_
    simp [leave, extend, enter, q]
  simpa using h.append hrest

end Yields

namespace Completes

theorem endif (h : Statement.endif.Written allowed source) :
    Completes inside [.statement source line] [] [] [] := by
  intro p rest done condition opening before outer ho _ _
  refine (run_cons (step_of_written h (.endifBranch ho)) rest).trans ?_
  simp [leave]

theorem insideBlock_next {done : List (Expr × List Element)} {opening : Nat} {before : List Element}
    {outer : List Opened} (ho : p.opened = ⟨.branch done condition, opening, before⟩ :: outer)
    {next : Construct} (hnext : ∀ name, next ≠ .block name) {elements : List Element} :
    insideBlock { p with opened := ⟨next, opening, before⟩ :: outer, elements := elements } =
      p.insideBlock := by
  unfold insideBlock
  rw [ho]
  cases next with
  | block name => exact absurd rfl (hnext name)
  | _ => rfl

theorem otherwise (hopen : Statement.otherwise.Written allowed source)
    (hbody : Yields inside ps bs es) (hclose : Statement.endif.Written allowed close) :
    Completes inside (.statement source line :: (ps ++ [.statement close line'])) bs [] es := by
  intro p rest done condition opening before outer ho hinside hd
  rw [List.cons_append, List.append_assoc, run_cons (step_of_written hopen (.otherwise ho)),
    hbody _ _ ((insideBlock_next ho (by simp)).trans hinside) hd]
  refine (run_cons (step_of_written hclose (.endifOtherwise rfl)) rest).trans ?_
  simp [leave, extend]

theorem elif {other : List Element}
    (hopen : (Statement.elif condition).Written allowed source)
    (hbody : Yields inside ps bs es) (htail : Completes inside qs cs branches other) :
    Completes inside (.statement source line :: (ps ++ qs)) (bs ++ cs) ((condition, es) :: branches)
      other := by
  intro p rest done last opening before outer ho hinside hd
  let q : Progress := { p with
    opened := ⟨.branch (done ++ [(last, p.elements)]) condition, opening, before⟩ :: outer
    elements := [] }
  have hinside' : q.insideBlock = inside := (insideBlock_next ho (by simp)).trans hinside
  have hd' : Distinct ((q.extend bs es).blocks ++ cs) := by
    show Distinct (p.blocks ++ bs ++ cs)
    rwa [List.append_assoc]
  rw [List.cons_append, List.append_assoc, run_cons (step_of_written hopen (.elif ho)),
    hbody q _ hinside' hd.left]
  refine (htail (q.extend bs es) rest _ condition opening before outer rfl hinside' hd').trans ?_
  simp [leave, extend, q]

end Completes

/-- The blocks of what a phrase says. -/
def Phrase.blocks : Phrase → List Block
  | .nodes ns => Node.blocksOf ns
  | .arms branches otherwise => Node.branchBlocks branches ++ Node.blocksOf otherwise

/-- What the parser gets from the parts that say a phrase. -/
def Phrase.YieldedBy (inside : Bool) (parts : List Part) : Phrase → Prop
  | .nodes ns => Yields inside parts (Node.blocksOf ns) (Node.elements ns)
  | .arms branches otherwise =>
    Completes inside parts (Node.branchBlocks branches ++ Node.blocksOf otherwise)
      (Node.branchElements branches) (Node.elements otherwise)

/-- The parser follows a derivation. -/
theorem Phrase.Says.yields {phrase : Phrase} (h : Phrase.Says allowed inside phrase ps) :
    phrase.YieldedBy inside ps := by
  induction h with
  | done => exact .nil
  | text _ ih => exact (Yields.of_step fun p _ => rfl).append ih
  | output hsource he _ ih =>
      exact (Yields.of_step fun p _ => step_output_iff.mpr (.inr ⟨hsource, _, he, rfl⟩)).append ih
  | super _ ih =>
      exact (Yields.of_step fun p hp => step_output_iff.mpr (.inl ⟨rfl, hp, rfl⟩)).append ih
  | assign hst _ ih => exact (Yields.of_step fun p _ => step_of_written hst .assign).append ih
  | loop hopen _ hclose _ ihbody ih => exact .loop hopen ihbody hclose ih
  | block hopen _ hlabel hclose _ ihbody ih => exact .block hopen ihbody hlabel hclose ih
  | choice hopen _ _ _ ihbody iharms ih =>
      show Yields _ _ (_ ++ _ ++ _ ++ _) _
      rw [List.append_assoc (Node.blocksOf _)]
      exact .choice hopen ihbody iharms ih
  | elif hst _ _ ihbody iharms =>
      show Completes _ _ (_ ++ _ ++ _) _ _
      rw [List.append_assoc]
      exact .elif hst ihbody iharms
  | otherwise hst _ hclose ihbody => exact .otherwise hst ihbody hclose
  | endif hst => exact .endif hst

/-- The parser reads a sentence to its end. -/
theorem Sentence.run {parent : Option String} (h : Sentence allowed parent ns ps)
    (hd : Distinct (Node.blocksOf ns)) :
    start.run ps = .ok ⟨parent, Node.blocksOf ns, [], Node.elements ns⟩ := by
  cases h with
  | root hnodes =>
      have h := hnodes.yields start [] rfl hd
      rw [List.append_nil] at h
      rw [h]
      rfl
  | @child parent source line ns ms ps qs hnodes hparent hmore =>
      rw [Node.blocksOf_append] at hd
      have hfirst := hnodes.yields start (.statement source line :: qs) rfl (@Distinct.left [] _ _ hd)
      rw [hfirst, run_cons (step_of_written hparent (.parent rfl rfl))]
      have hsecond := hmore.yields ⟨some parent, Node.blocksOf ns, [], Node.elements ns⟩ [] rfl hd
      rw [List.append_nil] at hsecond
      rw [Node.blocksOf_append, Node.elements_append]
      exact hsecond

/-! ### From templates to sentences -/

theorem Phrase.Says.append (h : Phrase.Says allowed inside (.nodes ns) ps)
    (h' : Phrase.Says allowed inside (.nodes ms) qs) :
    Phrase.Says allowed inside (.nodes (ns ++ ms)) (ps ++ qs) := by
  generalize hphrase : Phrase.nodes ns = phrase at h
  induction h generalizing ns with
  | done =>
      cases hphrase
      exact h'
  | text _ ih =>
      cases hphrase
      exact .text (ih h' rfl)
  | output hsource he _ ih =>
      cases hphrase
      exact .output hsource he (ih h' rfl)
  | super _ ih =>
      cases hphrase
      exact .super (ih h' rfl)
  | assign hst _ ih =>
      cases hphrase
      exact .assign hst (ih h' rfl)
  | loop hopen hbody hclose _ _ ih =>
      cases hphrase
      simp only [List.cons_append, List.append_assoc]
      exact .loop hopen hbody hclose (ih h' rfl)
  | block hopen hbody hlabel hclose _ _ ih =>
      cases hphrase
      simp only [List.cons_append, List.append_assoc]
      exact .block hopen hbody hlabel hclose (ih h' rfl)
  | choice hopen hbody harms _ _ _ ih =>
      cases hphrase
      simp only [List.cons_append, List.append_assoc]
      exact .choice hopen hbody harms (ih h' rfl)
  | _ => cases hphrase

theorem Sentence.append {parent : Option String} (h : Sentence allowed parent ns ps)
    (h' : Phrase.Says allowed false (.nodes ms) qs) :
    Sentence allowed parent (ns ++ ms) (ps ++ qs) := by
  cases h with
  | root hnodes => exact .root (hnodes.append h')
  | child hnodes hparent hmore =>
      rw [List.append_assoc, List.append_assoc]
      exact .child hnodes hparent (hmore.append h')

/-- A construct whose end has not been read, with what has been read of it before the innermost
body. -/
inductive Opening
  | block (name : String) (required : Bool)
  | loop (target : String) (items : Expr)
  | branch (done : List (Expr × List Node)) (condition : Expr)
  | otherwise (branches : List (Expr × List Node))

namespace Opening

/-- The open construct of the parser. -/
def construct : Opening → Construct
  | .block name _ => .block name
  | .loop target items => .loop target items
  | .branch done condition => .branch (Node.branchElements done) condition
  | .otherwise branches => .otherwise (Node.branchElements branches)

/-- The blocks that were listed before the innermost body. -/
def blocks : Opening → List Block
  | .block name required => [⟨name, required, []⟩]
  | .loop _ _ => []
  | .branch done _ => Node.branchBlocks done
  | .otherwise branches => Node.branchBlocks branches

/-- Whether the innermost body stands in a block. -/
def bodyInside (inside : Bool) : Opening → Bool
  | .block _ _ => true
  | .loop _ _ | .branch _ _ | .otherwise _ => inside

/-- The parts that have been read of a construct before its innermost body. -/
inductive Says (allowed : List (List Char) → Prop) (inside : Bool) : Opening → List Part → Prop
  | block {name : String} {required : Bool} {source : List Char} {line : Nat} :
      (Statement.block name required).Written allowed source →
      Says allowed inside (.block name required) [.statement source line]
  | loop {target : String} {items : Expr} {source : List Char} {line : Nat} :
      (Statement.loop target items).Written allowed source →
      Says allowed inside (.loop target items) [.statement source line]
  | branch {condition : Expr} {source : List Char} {line : Nat} :
      (Statement.branch condition).Written allowed source →
      Says allowed inside (.branch [] condition) [.statement source line]
  | elif {done : List (Expr × List Node)} {condition next : Expr} {source : List Char} {line : Nat}
      {ns : List Node} {ps qs : List Part} :
      Says allowed inside (.branch done condition) ps → Phrase.Says allowed inside (.nodes ns) qs →
      (Statement.elif next).Written allowed source →
      Says allowed inside (.branch (done ++ [(condition, ns)]) next)
        (ps ++ (qs ++ [.statement source line]))
  | otherwise {done : List (Expr × List Node)} {condition : Expr} {source : List Char} {line : Nat}
      {ns : List Node} {ps qs : List Part} :
      Says allowed inside (.branch done condition) ps → Phrase.Says allowed inside (.nodes ns) qs →
      Statement.otherwise.Written allowed source →
      Says allowed inside (.otherwise (done ++ [(condition, ns)]))
        (ps ++ (qs ++ [.statement source line]))

theorem Says.choice {done more : List (Expr × List Node)} {other : List Node}
    (h : Says allowed inside (.branch done condition) ps)
    (hbody : Phrase.Says allowed inside (.nodes ns) qs)
    (harms : Phrase.Says allowed inside (.arms more other) rs) :
    Phrase.Says allowed inside (.nodes [.choice (done ++ (condition, ns) :: more) other])
      (ps ++ (qs ++ rs)) := by
  generalize hopening : Opening.branch done condition = opening at h
  induction h generalizing done condition ns more qs rs with
  | branch hopen =>
      cases hopening
      rw [List.singleton_append, ← List.append_nil rs]
      exact .choice hopen hbody harms .done
  | elif _ hbody' hnext ih =>
      cases hopening
      simp only [List.append_assoc, List.singleton_append]
      exact ih hbody' (.elif hnext hbody harms) rfl
  | _ => cases hopening

theorem Says.choice_otherwise {branches : List (Expr × List Node)}
    (h : Says allowed inside (.otherwise branches) ps)
    (hbody : Phrase.Says allowed inside (.nodes ns) qs)
    (hclose : Statement.endif.Written allowed close) :
    Phrase.Says allowed inside (.nodes [.choice branches ns])
      (ps ++ (qs ++ [.statement close line])) := by
  cases h with
  | otherwise hdone hlast helse =>
      simp only [List.append_assoc, List.singleton_append]
      exact hdone.choice hlast (.otherwise helse hbody hclose)

end Opening

/-- A block that is open gets its body. -/
theorem setBody_of_distinct {name : String} {required : Bool} (body : List Element)
    (h : Distinct (bs ++ (Block.mk name required [] :: cs))) :
    setBody name body (bs ++ (Block.mk name required [] :: cs)) =
      bs ++ Block.mk name required body :: cs := by
  have hd : Distinct (bs ++ Block.mk name required body :: cs) := by
    unfold Distinct at h ⊢
    rwa [List.map_append] at h ⊢
  rw [← setBody_eq hd, List.append_assoc]
  rfl

/-- What has been read, as a sentence and the constructs that are open in it. -/
inductive Reads (allowed : List (List Char) → Prop) : Progress → List Part → Prop
  | outside {parent : Option String} {ns : List Node} {ps : List Part} :
      Sentence allowed parent ns ps →
      Reads allowed ⟨parent, Node.blocksOf ns, [], Node.elements ns⟩ ps
  | inside {p : Progress} {o : Opening} {line : Nat} {ns : List Node} {ps qs rs : List Part} :
      Reads allowed p ps → o.Says allowed p.insideBlock qs →
      Phrase.Says allowed (o.bodyInside p.insideBlock) (.nodes ns) rs →
      Reads allowed ⟨p.parent, p.blocks ++ (o.blocks ++ Node.blocksOf ns),
        ⟨o.construct, line, p.elements⟩ :: p.opened, Node.elements ns⟩ (ps ++ (qs ++ rs))

namespace Reads

theorem start : Reads allowed start [] := .outside (.root .done)

theorem append (h : Reads allowed p ps) (hnodes : Phrase.Says allowed p.insideBlock (.nodes ms) rs) :
    Reads allowed (p.extend (Node.blocksOf ms) (Node.elements ms)) (ps ++ rs) := by
  cases h with
  | @outside parent ns _ hsentence =>
      have h := Reads.outside (hsentence.append hnodes)
      rwa [Node.blocksOf_append, Node.elements_append] at h
  | @inside p o line ns ps qs ks hp ho hbody =>
      have hinside : (Progress.insideBlock ⟨p.parent, p.blocks ++ (o.blocks ++ Node.blocksOf ns),
          ⟨o.construct, line, p.elements⟩ :: p.opened, Node.elements ns⟩) =
          o.bodyInside p.insideBlock := by
        cases o <;> rfl
      rw [hinside] at hnodes
      have h : Reads allowed ⟨p.parent, p.blocks ++ (o.blocks ++ Node.blocksOf (ns ++ ms)),
          ⟨o.construct, line, p.elements⟩ :: p.opened, Node.elements (ns ++ ms)⟩
          (ps ++ (qs ++ (ks ++ rs))) := .inside hp ho (hbody.append hnodes)
      rw [Node.blocksOf_append, Node.elements_append] at h
      simpa only [extend, List.append_assoc] using h

theorem enter {o : Opening} (h : Reads allowed p ps) (line : Nat) (ho : o.Says allowed p.insideBlock qs)
    (hq : q = ⟨p.parent, p.blocks ++ o.blocks, ⟨o.construct, line, p.elements⟩ :: p.opened, []⟩) :
    Reads allowed q (ps ++ qs) := by
  have h' : Reads allowed ⟨p.parent, p.blocks ++ (o.blocks ++ []),
      ⟨o.construct, line, p.elements⟩ :: p.opened, []⟩ (ps ++ (qs ++ [])) := .inside h ho .done
  rw [List.append_nil, List.append_nil] at h'
  rwa [hq]

theorem append_node {n : Node} (h : Reads allowed p ps)
    (hn : Phrase.Says allowed p.insideBlock (.nodes [n]) rs) (hq : q = p.extend n.blocks [n.element]) :
    Reads allowed q (ps ++ rs) := by
  have h' := h.append hn
  rw [Node.blocksOf, Node.blocksOf, List.append_nil] at h'
  rwa [hq]

theorem push {n : Node} (h : Reads allowed p ps) (hblocks : n.blocks = [])
    {part : Part} (hn : Phrase.Says allowed p.insideBlock (.nodes [n]) [part]) :
    Reads allowed (p.push n.element) (ps ++ [part]) := by
  refine h.append_node hn ?_
  rw [hblocks]
  simp [Progress.push, extend]

/-- The parts of a construct that has been closed stand behind the ones before it. -/
theorem leave {n : Node} (h : Reads allowed p ps)
    (hn : Phrase.Says allowed p.insideBlock (.nodes [n]) (qs ++ (rs ++ [.statement source line])))
    (hq : q = p.extend n.blocks [n.element]) :
    Reads allowed q (ps ++ (qs ++ rs) ++ [.statement source line]) := by
  simp only [List.append_assoc]
  exact h.append_node hn hq

section
variable {opening : Nat} {before : List Element} {outer : List Opened}

theorem parent {name : String} (h : Reads allowed p ps)
    (hst : (Statement.parent name).Written allowed source) (ho : p.opened = []) (hp : p.parent = none) :
    Reads allowed { p with parent := some name } (ps ++ [.statement source line]) := by
  cases h with
  | @outside above ns _ hsentence =>
      cases hsentence with
      | root hnodes =>
          have h : Sentence allowed (some name) (ns ++ []) (ps ++ [.statement source line]) :=
            .child hnodes hst .done
          rw [List.append_nil] at h
          exact .outside h
      | child _ _ _ => cases hp
  | inside _ _ _ => cases ho

theorem endblock {name : String} {label : Option String} (h : Reads allowed p ps)
    (hd : Distinct p.blocks) (hst : (Statement.endblock label).Written allowed source)
    (ho : p.opened = ⟨.block name, opening, before⟩ :: outer) (hlabel : ∀ l ∈ label, l = name) :
    Reads allowed
      ({ p with blocks := setBody name p.elements p.blocks }.leave outer before (.slot name))
      (ps ++ [.statement source line]) := by
  cases h with
  | outside _ => cases ho
  | @inside p o _ ns ps qs rs hp hqs hbody =>
      cases hqs with
      | block hopen =>
          cases ho
          refine hp.leave (.block hopen hbody hlabel hst .done) ?_
          have hset := setBody_of_distinct (Node.elements ns) hd
          simp only [Progress.leave, extend, Node.blocks, Node.element]
          exact congrArg (fun blocks => Progress.mk _ blocks _ _) hset
      | _ => cases ho

theorem endfor {target : String} {items : Expr} (h : Reads allowed p ps)
    (hst : Statement.endfor.Written allowed source)
    (ho : p.opened = ⟨.loop target items, opening, before⟩ :: outer) :
    Reads allowed (p.leave outer before (.loop target items p.elements))
      (ps ++ [.statement source line]) := by
  cases h with
  | outside _ => cases ho
  | inside hp hqs hbody =>
      cases hqs with
      | loop hopen =>
          cases ho
          exact hp.leave (.loop hopen hbody hst .done) rfl
      | _ => cases ho

theorem elif {done : List (Expr × List Element)} {condition next : Expr} (h : Reads allowed p ps)
    (hst : (Statement.elif next).Written allowed source)
    (ho : p.opened = ⟨.branch done condition, opening, before⟩ :: outer) :
    Reads allowed { p with
      opened := ⟨.branch (done ++ [(condition, p.elements)]) next, opening, before⟩ :: outer
      elements := [] } (ps ++ [.statement source line]) := by
  cases h with
  | outside _ => cases ho
  | @inside p o _ ns ps qs rs hp hqs hbody =>
      cases o with
      | branch done condition =>
          cases ho
          simp only [List.append_assoc]
          refine hp.enter opening (.elif hqs hbody hst) ?_
          simp [Opening.construct, Opening.blocks, Node.branchElements_append,
            Node.branchBlocks_append, Node.branchElements, Node.branchBlocks]
      | _ => cases ho

theorem otherwise {done : List (Expr × List Element)} {condition : Expr} (h : Reads allowed p ps)
    (hst : Statement.otherwise.Written allowed source)
    (ho : p.opened = ⟨.branch done condition, opening, before⟩ :: outer) :
    Reads allowed { p with
      opened := ⟨.otherwise (done ++ [(condition, p.elements)]), opening, before⟩ :: outer
      elements := [] } (ps ++ [.statement source line]) := by
  cases h with
  | outside _ => cases ho
  | @inside p o _ ns ps qs rs hp hqs hbody =>
      cases o with
      | branch done condition =>
          cases ho
          simp only [List.append_assoc]
          refine hp.enter opening (.otherwise hqs hbody hst) ?_
          simp [Opening.construct, Opening.blocks, Node.branchElements_append,
            Node.branchBlocks_append, Node.branchElements, Node.branchBlocks]
      | _ => cases ho

theorem endif_branch {done : List (Expr × List Element)} {condition : Expr} (h : Reads allowed p ps)
    (hst : Statement.endif.Written allowed source)
    (ho : p.opened = ⟨.branch done condition, opening, before⟩ :: outer) :
    Reads allowed (p.leave outer before (.choice (done ++ [(condition, p.elements)]) []))
      (ps ++ [.statement source line]) := by
  cases h with
  | outside _ => cases ho
  | @inside p o _ ns ps qs rs hp hqs hbody =>
      cases o with
      | branch done condition =>
          cases ho
          refine hp.leave (hqs.choice hbody (.endif hst)) ?_
          simp [Progress.leave, extend, Opening.blocks, Node.blocks, Node.element,
            Node.branchElements_append, Node.branchBlocks_append, Node.branchElements,
            Node.branchBlocks, Node.blocksOf, Node.elements]
      | _ => cases ho

theorem endif_otherwise {branches : List (Expr × List Element)} (h : Reads allowed p ps)
    (hst : Statement.endif.Written allowed source)
    (ho : p.opened = ⟨.otherwise branches, opening, before⟩ :: outer) :
    Reads allowed (p.leave outer before (.choice branches p.elements))
      (ps ++ [.statement source line]) := by
  cases h with
  | outside _ => cases ho
  | @inside p o _ ns ps qs rs hp hqs hbody =>
      cases o with
      | otherwise branches =>
          cases ho
          exact hp.leave (hqs.choice_otherwise hbody hst) rfl
      | _ => cases ho

end

theorem of_moves {st : Statement} (h : Reads allowed p ps) (hd : Distinct p.blocks)
    (hst : st.Written allowed source) (hmove : Moves line st p q) :
    Reads allowed q (ps ++ [.statement source line]) := by
  cases hmove with
  | parent ho hp => exact h.parent hst ho hp
  | @block _ name required hn => exact h.enter (o := .block name required) line (.block hst) rfl
  | @loop _ target items =>
      refine h.enter (o := .loop target items) line (.loop hst) ?_
      rw [Opening.blocks, List.append_nil]
      rfl
  | @branch _ condition =>
      refine h.enter (o := .branch [] condition) line (.branch hst) ?_
      rw [Opening.blocks, Node.branchBlocks, List.append_nil]
      rfl
  | assign => exact h.push rfl (.assign hst .done)
  | endblock ho hlabel => exact h.endblock hd hst ho hlabel
  | endfor ho => exact h.endfor hst ho
  | elif ho => exact h.elif hst ho
  | otherwise ho => exact h.otherwise hst ho
  | endifBranch ho => exact h.endif_branch hst ho
  | endifOtherwise ho => exact h.endif_otherwise hst ho

theorem of_step {part : Part} (h : Reads allowed p ps) (hd : Distinct p.blocks)
    (hpart : part.Permits allowed) (hstep : p.step part = .ok q) :
    Reads allowed q (ps ++ [part]) := by
  cases part with
  | text s =>
      cases hstep
      exact h.push rfl (.text .done)
  | output source line =>
      rcases step_output_iff.mp hstep with ⟨hsource, hinside, rfl⟩ | ⟨hsource, e, he, rfl⟩
      · refine h.push (n := .super) rfl ?_
        rw [hsource, hinside]
        exact .super .done
      · exact h.push (n := .output e) rfl (.output hsource he .done)
  | statement source line =>
      obtain ⟨st, passed, hsays, hmove⟩ := step_statement_iff.mp hstep
      exact h.of_moves hd ⟨passed, hsays, hpart st passed hsays⟩ hmove

end Reads

/-- A step lists no block of a name that is listed. -/
theorem distinct_of_step {part : Part} (hd : Distinct p.blocks) (hstep : p.step part = .ok q) :
    Distinct q.blocks := by
  cases part with
  | text s =>
      cases hstep
      exact hd
  | output source line =>
      rcases step_output_iff.mp hstep with ⟨-, -, rfl⟩ | ⟨-, e, -, rfl⟩
      · exact hd
      · exact hd
  | statement source line =>
      obtain ⟨st, passed, -, hmove⟩ := step_statement_iff.mp hstep
      cases hmove with
      | @block _ name required hn =>
          show ((p.blocks ++ [Block.mk name required []]).map (·.name)).Nodup
          rw [List.map_append, List.nodup_append]
          refine ⟨hd, by simp, ?_⟩
          rintro n hmem m hm rfl
          obtain ⟨b, hb, rfl⟩ := List.mem_map.mp hmem
          rw [← Bool.not_eq_true, List.any_eq_true] at hn
          exact hn ⟨b, hb, beq_iff_eq.mpr (List.mem_singleton.mp hm)⟩
      | @endblock _ label name _ _ _ _ _ =>
          show ((setBody name p.elements p.blocks).map (·.name)).Nodup
          have hnames : (setBody name p.elements p.blocks).map (·.name) = p.blocks.map (·.name) := by
            unfold setBody
            rw [List.map_map]
            refine List.map_congr_left fun b _ => ?_
            by_cases hb : b.name = name
            · simp [hb]
            · simp [hb]
          rwa [hnames]
      | _ => exact hd

theorem Reads.of_run (h : Reads allowed p ps) (hd : Distinct p.blocks)
    (hparts : ∀ part ∈ qs, part.Permits allowed) (hrun : p.run qs = .ok q) :
    Reads allowed q (ps ++ qs) ∧ Distinct q.blocks := by
  induction qs generalizing p ps with
  | nil =>
      cases hrun
      rw [List.append_nil]
      exact ⟨h, hd⟩
  | cons part qs ih =>
      obtain ⟨p', hstep, hrun⟩ := bind_eq_ok.mp hrun
      obtain ⟨hpart, hqs⟩ := List.forall_mem_cons.mp hparts
      have hrest := ih (h.of_step hd hpart hstep) (distinct_of_step hd hstep) hqs hrun
      rwa [List.append_assoc] at hrest

/-! ### Whole templates -/

/-- What the parser reads to the end, and what it gets from that. -/
theorem run_eq_ok_iff (hparts : ∀ part ∈ ps, part.Permits allowed) (hq : q.opened = []) :
    Progress.start.run ps = .ok q ↔ ∃ ns, Sentence allowed q.parent ns ps ∧
      Distinct (Node.blocksOf ns) ∧ q.blocks = Node.blocksOf ns ∧ q.elements = Node.elements ns := by
  constructor
  · intro hrun
    obtain ⟨h, hd⟩ := Reads.start.of_run List.nodup_nil hparts hrun
    rw [List.nil_append] at h
    cases h with
    | outside hsentence => exact ⟨_, hsentence, hd, rfl, rfl⟩
    | inside _ _ _ => cases hq
  · rintro ⟨ns, hsentence, hd, hblocks, helements⟩
    rw [hsentence.run hd]
    cases q
    cases hq
    cases hblocks
    cases helements
    rfl

variable {options : Spacing} {name content : String} {t : Template}

theorem parseChars_eq_ok_iff {pieces : List Piece} (hcut : Piece.cut content.toList = .ok pieces) :
    parseChars options name content.toList = .ok t ↔
      ∃ q, Progress.start.run (options.apply pieces) = .ok q ∧ q.opened = [] ∧
        t = ⟨name, q.parent, q.elements, q.blocks⟩ := by
  unfold parseChars
  rw [hcut]
  dsimp only
  rw [bind_eq_ok]
  refine exists_congr fun q => and_congr_right fun _ => ?_
  unfold finish
  cases q.opened with
  | nil => simp [eq_comm]
  | cons o outer => simp

/-- A content that can be cut is accepted just if the parts of it are a sentence whose blocks have
different names, and the template is that of the outline. -/
theorem parse_eq_ok_iff {pieces : List Piece} (hcut : Piece.cut content.toList = .ok pieces)
    (hparts : ∀ part ∈ options.apply pieces, part.Permits allowed) :
    parse options name content = .ok t ↔ ∃ parent ns, Sentence allowed parent ns (options.apply pieces) ∧
      Distinct (Node.blocksOf ns) ∧ t = ofOutline name parent ns := by
  have hparse : parse options name content = .ok t ↔
      parseChars options name content.toList = .ok t := by
    unfold parse
    cases parseChars options name content.toList with
    | error fault => simp
    | ok t => simp
  rw [hparse, parseChars_eq_ok_iff hcut]
  constructor
  · rintro ⟨q, hrun, hopened, rfl⟩
    obtain ⟨ns, hsentence, hd, hblocks, helements⟩ := (run_eq_ok_iff hparts hopened).mp hrun
    exact ⟨q.parent, ns, hsentence, hd, by rw [hblocks, helements]; rfl⟩
  · rintro ⟨parent, ns, hsentence, hd, rfl⟩
    exact ⟨_, hsentence.run hd, rfl, rfl⟩

/-- A content is accepted just if it can be cut into a sentence whose blocks have different names, where
some words may be passed over. -/
theorem parse_eq_ok_iff_sentence : parse options name content = .ok t ↔
    ∃ pieces parent ns, Piece.cut content.toList = .ok pieces ∧
      Sentence (fun _ => True) parent ns (options.apply pieces) ∧ Distinct (Node.blocksOf ns) ∧
      t = ofOutline name parent ns := by
  have htrue : ∀ part : Part, part.Permits fun _ => True := by
    intro part
    cases part with
    | statement source line => exact fun _ _ _ => trivial
    | _ => trivial
  cases hcut : Piece.cut content.toList with
  | error fault =>
      constructor
      · intro h
        unfold parse parseChars at h
        rw [hcut] at h
        cases h
      · rintro ⟨pieces, parent, ns, hpieces, -⟩
        cases hpieces
  | ok pieces =>
      rw [parse_eq_ok_iff hcut fun part _ => htrue part]
      constructor
      · rintro ⟨parent, ns, h⟩
        exact ⟨pieces, parent, ns, rfl, h⟩
      · rintro ⟨_, parent, ns, hpieces, h⟩
        cases hpieces
        exact ⟨parent, ns, h⟩

end ClassScribe.Template
