import ClassScribe.Proofs.Template.Openings
import ClassScribe.Proofs.Template.Spacing

/-! # Lines of errors

Reading parts never looks at their lines: parts on other lines are read alike, and fail with the same fault
on the line of the same part (`run_relined`). So every error of a source is on the line of the opening of a
tag, and a text without tags in front of the source moves it down (`parse_lines`). -/

namespace ClassScribe.Template

/-! ### Parts on other lines -/

/-- Parts that are the same but for their lines, which are related. -/
inductive Part.Relined (R : Nat → Nat → Prop) : Part → Part → Prop
  | text (s : List Char) : Relined R (.text s) (.text s)
  | output (source : List Char) {line line' : Nat} :
      R line line' → Relined R (.output source line) (.output source line')
  | statement (source : List Char) {line line' : Nat} :
      R line line' → Relined R (.statement source line) (.statement source line')

/-- Open constructs that are the same but for their lines, which are related. -/
structure Opened.Relined (R : Nat → Nat → Prop) (o o' : Opened) : Prop where
  construct : o'.construct = o.construct
  before : o'.before = o.before
  line : R o.line o'.line

/-- The same fault on lines that are related. -/
def SameFault (R : Nat → Nat → Prop) (e e' : Nat × SyntaxFault) : Prop := R e.1 e'.1 ∧ e'.2 = e.2

namespace Progress

/-- What has been read of parts that are the same but for their lines, which are related. -/
structure Relined (R : Nat → Nat → Prop) (p p' : Progress) : Prop where
  parent : p'.parent = p.parent
  blocks : p'.blocks = p.blocks
  opened : List.Forall₂ (Opened.Relined R) p.opened p'.opened
  elements : p'.elements = p.elements

section
variable {R : Nat → Nat → Prop} {p p' : Progress} {line line' : Nat}

theorem Relined.push (h : p.Relined R p') (e : Element) : (p.push e).Relined R (p'.push e) :=
  ⟨h.parent, h.blocks, h.opened, congrArg (· ++ [e]) h.elements⟩

theorem Relined.enter (h : p.Relined R p') (hline : R line line') (c : Construct) :
    (p.enter c line).Relined R (p'.enter c line') :=
  ⟨h.parent, h.blocks, .cons ⟨rfl, h.elements, hline⟩ h.opened, rfl⟩

theorem Relined.leave (h : p.Relined R p') {outer outer' : List Opened}
    (houter : List.Forall₂ (Opened.Relined R) outer outer') (before : List Element) (e : Element) :
    (p.leave outer before e).Relined R (p'.leave outer' before e) :=
  ⟨h.parent, h.blocks, houter, rfl⟩

theorem Relined.isEmpty (h : p.Relined R p') : p'.opened.isEmpty = p.opened.isEmpty := by
  have hopened := h.opened
  generalize p.opened = opened at hopened
  generalize p'.opened = opened' at hopened
  cases hopened <;> rfl

theorem Relined.insideBlock (h : p.Relined R p') : p'.insideBlock = p.insideBlock := by
  have hopened := h.opened
  unfold Progress.insideBlock
  generalize p.opened = opened at hopened
  generalize p'.opened = opened' at hopened
  induction hopened with
  | nil => rfl
  | cons ho _ ih => rw [List.any_cons, List.any_cons, ih, ho.construct]

theorem expression_relined (hline : R line line') (source : List Char) :
    Alike (SameFault R) Eq (expression source line) (expression source line') := by
  unfold expression
  split
  · exact .error ⟨hline, rfl⟩
  · split
    · exact .error ⟨hline, rfl⟩
    · exact .ok rfl

theorem readExtends_relined (h : p.Relined R p') (hline : R line line') (rest : List Char) :
    Alike (SameFault R) (Relined R) (readExtends p rest line) (readExtends p' rest line') := by
  unfold readExtends
  rw [h.isEmpty, h.parent]
  split_ifs
  · exact .error ⟨hline, rfl⟩
  · exact .error ⟨hline, rfl⟩
  · cases dropQuotes rest with
    | nil => exact .error ⟨hline, rfl⟩
    | cons c name => exact .ok ⟨rfl, h.blocks, h.opened, h.elements⟩

theorem openBlock_relined (h : p.Relined R p') (hline : R line line') (name : String) (required : Bool) :
    Alike (SameFault R) (Relined R) (openBlock p name required line)
      (openBlock p' name required line') := by
  unfold openBlock
  rw [h.blocks]
  split_ifs
  · exact .error ⟨hline, rfl⟩
  · have hblocks : Relined R { p with blocks := p.blocks ++ [Block.mk name required []] }
        { p' with blocks := p.blocks ++ [Block.mk name required []] } :=
      ⟨h.parent, rfl, h.opened, h.elements⟩
    exact .ok (hblocks.enter hline (.block name))

theorem readBlock_relined (h : p.Relined R p') (hline : R line line') (rest : List Char) :
    Alike (SameFault R) (Relined R) (readBlock p rest line) (readBlock p' rest line') := by
  unfold readBlock
  cases Text.words rest with
  | nil => exact .error ⟨hline, rfl⟩
  | cons name more =>
      dsimp only
      split_ifs
      · exact .error ⟨hline, rfl⟩
      · cases more with
        | nil => exact openBlock_relined h hline _ _
        | cons word _ =>
            dsimp only
            split_ifs
            · exact openBlock_relined h hline _ _
            · exact .error ⟨hline, rfl⟩

theorem readFor_relined (h : p.Relined R p') (hline : R line line') (rest : List Char) :
    Alike (SameFault R) (Relined R) (readFor p rest line) (readFor p' rest line') := by
  unfold readFor
  cases Text.splitOnce " in ".toList rest with
  | none => exact .error ⟨hline, rfl⟩
  | some found =>
      dsimp only
      split_ifs
      · exact .error ⟨hline, rfl⟩
      · exact (expression_relined hline _).bind fun _ _ he => he ▸ .ok (h.enter hline _)

theorem readIf_relined (h : p.Relined R p') (hline : R line line') (rest : List Char) :
    Alike (SameFault R) (Relined R) (readIf p rest line) (readIf p' rest line') :=
  (expression_relined hline rest).bind fun _ _ he => he ▸ .ok (h.enter hline _)

theorem readSet_relined (h : p.Relined R p') (hline : R line line') (rest : List Char) :
    Alike (SameFault R) (Relined R) (readSet p rest line) (readSet p' rest line') := by
  unfold readSet
  cases Text.splitOnce ['='] rest with
  | none => exact .error ⟨hline, rfl⟩
  | some found =>
      dsimp only
      split_ifs
      · exact .error ⟨hline, rfl⟩
      · exact (expression_relined hline _).bind fun _ _ he => he ▸ .ok (h.push _)

theorem readOther_relined (h : p.Relined R p') (hline : R line line') (keyword rest : List Char) :
    Alike (SameFault R) (Relined R) (readOther p keyword rest line) (readOther p' keyword rest line') := by
  unfold readOther
  dsimp only
  split_ifs
  · exact readExtends_relined h hline rest
  · exact readBlock_relined h hline rest
  · exact readFor_relined h hline rest
  · exact readIf_relined h hline rest
  · exact readSet_relined h hline rest
  · exact .error ⟨hline, rfl⟩
  · exact .error ⟨hline, rfl⟩

theorem readInside_relined (h : p.Relined R p') (hline : R line line') {o o' : Opened}
    (ho : o.Relined R o') {outer outer' : List Opened}
    (houter : List.Forall₂ (Opened.Relined R) outer outer') (keyword rest : List Char) :
    Alike (SameFault R) (Relined R) (readInside p o outer keyword rest line)
      (readInside p' o' outer' keyword rest line') := by
  have hother := readOther_relined h hline keyword rest
  obtain ⟨construct, opening, before⟩ := o
  obtain ⟨construct', opening', before'⟩ := o'
  obtain ⟨rfl, rfl, hopening⟩ := ho
  unfold readInside
  rw [h.elements, h.blocks]
  cases construct' with
  | block name =>
      dsimp only
      split_ifs
      · exact .error ⟨hline, rfl⟩
      · have hblocks : Relined R { p with blocks := setBody name p.elements p.blocks }
            { p' with blocks := setBody name p.elements p.blocks } :=
          ⟨h.parent, rfl, h.opened, h.elements⟩
        exact .ok (hblocks.leave houter _ _)
      · exact hother
  | loop target items =>
      dsimp only
      split_ifs
      · exact .ok (h.leave houter _ _)
      · exact hother
  | branch done condition =>
      dsimp only
      split_ifs
      · exact (expression_relined hline rest).bind fun _ _ he =>
          he ▸ .ok ⟨h.parent, rfl, .cons ⟨rfl, rfl, hopening⟩ houter, rfl⟩
      · exact .ok ⟨h.parent, rfl, .cons ⟨rfl, rfl, hopening⟩ houter, rfl⟩
      · exact .ok (h.leave houter _ _)
      · exact hother
  | otherwise branches =>
      dsimp only
      split_ifs
      · exact .ok (h.leave houter _ _)
      · exact hother

theorem readStatement_relined (h : p.Relined R p') (hline : R line line') (source : List Char) :
    Alike (SameFault R) (Relined R) (readStatement p source line) (readStatement p' source line') := by
  have hopened := h.opened
  unfold readStatement
  dsimp only
  cases hp : p.opened with
  | nil =>
      rw [hp] at hopened
      rw [List.forall₂_nil_left_iff.mp hopened]
      exact readOther_relined h hline _ _
  | cons o outer =>
      rw [hp] at hopened
      obtain ⟨o', outer', ho, houter, hp'⟩ := List.forall₂_cons_left_iff.mp hopened
      rw [hp']
      exact readInside_relined h hline ho houter _ _

theorem readOutput_relined (h : p.Relined R p') (hline : R line line') (source : List Char) :
    Alike (SameFault R) (Relined R) (readOutput p source line) (readOutput p' source line') := by
  unfold readOutput
  rw [h.insideBlock]
  split_ifs
  · exact .ok (h.push _)
  · exact .error ⟨hline, rfl⟩
  · exact (expression_relined hline source).bind fun _ _ he => he ▸ .ok (h.push _)

theorem step_relined (h : p.Relined R p') {part part' : Part} (hpart : part.Relined R part') :
    Alike (SameFault R) (Relined R) (p.step part) (p'.step part') := by
  cases hpart with
  | text s => exact .ok (h.push _)
  | output source hline => exact readOutput_relined h hline source
  | statement source hline => exact readStatement_relined h hline source

theorem run_relined {ps ps' : List Part} (hps : List.Forall₂ (Part.Relined R) ps ps') (h : p.Relined R p') :
    Alike (SameFault R) (Relined R) (p.run ps) (p'.run ps') := by
  induction hps generalizing p p' with
  | nil => exact .ok h
  | cons hpart _ ih => exact (step_relined h hpart).bind fun _ _ hq => ih hq

theorem finish_relined (h : p.Relined R p') (name : String) :
    Alike (SameFault R) Eq (p.finish name) (p'.finish name) := by
  have hopened := h.opened
  unfold finish
  cases hp : p.opened with
  | nil =>
      rw [hp] at hopened
      rw [List.forall₂_nil_left_iff.mp hopened, h.parent, h.elements, h.blocks]
      exact .ok rfl
  | cons o outer =>
      rw [hp] at hopened
      obtain ⟨o', outer', ho, houter, hp'⟩ := List.forall₂_cons_left_iff.mp hopened
      rw [hp']
      exact .error ⟨ho.line, congrArg Construct.unclosed ho.construct⟩

theorem template_relined {ps ps' : List Part} (hps : List.Forall₂ (Part.Relined R) ps ps') (name : String) :
    Alike (SameFault R) Eq (start.run ps >>= (·.finish name)) (start.run ps' >>= (·.finish name)) :=
  (run_relined hps ⟨rfl, rfl, .nil, rfl⟩).bind fun _ _ h => finish_relined h name

end

/-! ### Parts without texts -/

/-- What is read of parts without the texts is what is read of the parts, without the texts. -/
theorem template_dropTexts (ps : List Part) (name : String) :
    (start.run (Part.dropTexts ps) >>= (·.finish name)) =
      (start.run ps >>= (·.finish name)).map (·.reword fun _ => none) := by
  have hparts : ps.flatMap (Part.reword fun _ => none) = Part.dropTexts ps := by
    induction ps with
    | nil => rfl
    | cons part ps ih =>
        rw [List.flatMap_cons, ih]
        cases part <;> rfl
  have hfinish : (start.run ps >>= (·.finish name)).map (·.reword fun _ => none) =
      (start.run ps).map (·.reword fun _ => none) >>= (·.finish name) :=
    (bind_map_result fun p => p.finish_reword name).symm
  rw [hfinish, ← run_reword, hparts]
  rfl

/-- Parts fail on the line of one of them. -/
theorem exists_part_of_error {ps : List Part} {name : String} {line : Nat} {fault : SyntaxFault}
    (h : (start.run ps >>= (·.finish name)) = .error (line, fault)) :
    ∃ part ∈ ps, part.line? = some line := by
  let R (l l' : Nat) : Prop := l = l' ∧ ∃ part ∈ ps, part.line? = some l
  have hps : List.Forall₂ (Part.Relined R) ps ps := by
    refine List.forall₂_same.mpr fun part hpart => ?_
    cases part with
    | text s => exact .text s
    | output source l => exact .output source ⟨rfl, _, hpart, rfl⟩
    | statement source l => exact .statement source ⟨rfl, _, hpart, rfl⟩
  have halike := template_relined hps name
  rw [h] at halike
  cases halike with
  | error he => exact he.1.2

end Progress

/-! ### Tokens -/

section
variable {options : Spacing} {previous : Option Tag} {pieces : List Piece} {ps qs : List Part} {part : Part}

theorem dropTexts_append (ps qs : List Part) :
    Part.dropTexts (ps ++ qs) = Part.dropTexts ps ++ Part.dropTexts qs := List.filter_append ..

theorem dropTexts_textParts (s : List Char) : Part.dropTexts (Spacing.textParts s) = [] := by
  unfold Spacing.textParts
  split <;> rfl

theorem dropTexts_tagParts (t : Tag) : Part.dropTexts (Spacing.tagParts t) = Spacing.tagParts t := by
  unfold Spacing.tagParts
  split <;> rfl

theorem line?_textParts {s : List Char} (h : part ∈ Spacing.textParts s) : part.line? = none := by
  unfold Spacing.textParts at h
  split at h
  · cases h
  · rw [List.mem_singleton.mp h]
    rfl

theorem eq_of_tagParts {t : Tag} (h : Spacing.tagParts t = ps ++ part :: qs) :
    ps = [] ∧ Spacing.tagParts t = [part] := by
  have hlength : (Spacing.tagParts t).length ≤ 1 := by
    unfold Spacing.tagParts
    split <;> simp
  have hps : ps = [] ∧ qs = [] := by
    rw [h, List.length_append, List.length_cons] at hlength
    exact ⟨List.eq_nil_of_length_eq_zero (by omega), List.eq_nil_of_length_eq_zero (by omega)⟩
  rw [h, hps.1, hps.2]
  exact ⟨rfl, rfl⟩

/-- Every part with a line is what a tag leaves of itself, and the ones before it are left by the tags before
that. -/
theorem exists_tag_of_part (h : options.applyFrom previous pieces = ps ++ part :: qs)
    (hline : part.line? ≠ none) : ∃ before tag after, pieces = before ++ .tag tag :: after ∧
      Spacing.tagParts tag = [part] ∧ Part.dropTexts ps = Piece.tokens before := by
  induction pieces generalizing previous ps with
  | nil => exact absurd h (by simp [Spacing.applyFrom])
  | cons piece pieces ih =>
      cases piece with
      | text s =>
          obtain ⟨ws, hws⟩ | ⟨ws, hps, hws⟩ := Piece.append_eq_append_cons h
          · have hpart : part ∈ ps ++ part :: ws := List.mem_append_right ps List.mem_cons_self
            rw [← hws] at hpart
            exact absurd (line?_textParts hpart) hline
          · obtain ⟨before, tag, after, rfl, htag, hbefore⟩ := ih hws
            refine ⟨.text s :: before, tag, after, rfl, htag, ?_⟩
            rw [hps, dropTexts_append, dropTexts_textParts]
            exact hbefore
      | tag t =>
          obtain ⟨ws, hws⟩ | ⟨ws, hps, hws⟩ := Piece.append_eq_append_cons h
          · obtain ⟨rfl, htag⟩ := eq_of_tagParts hws
            exact ⟨[], t, pieces, rfl, htag, rfl⟩
          · obtain ⟨before, tag, after, rfl, htag, hbefore⟩ := ih hws
            refine ⟨.tag t :: before, tag, after, rfl, htag, ?_⟩
            rw [hps, dropTexts_append, dropTexts_tagParts, hbefore]
            rfl

theorem dropTexts_applyFrom (options : Spacing) (previous : Option Tag) (pieces : List Piece) :
    Part.dropTexts (options.applyFrom previous pieces) = Piece.tokens pieces := by
  induction pieces generalizing previous with
  | nil => rfl
  | cons piece pieces ih =>
      cases piece with
      | text s =>
          rw [Spacing.applyFrom, dropTexts_append, dropTexts_textParts, ih]
          rfl
      | tag t =>
          rw [Spacing.applyFrom, dropTexts_append, dropTexts_tagParts, ih]
          rfl

end

/-! ### Sources further down -/

namespace Piece
variable {s body inside rest after : List Char} {kind : TagKind} {front : Nat → List Piece} {total : Nat}

/-- A piece that stands further down. -/
def down (k : Nat) : Piece → Piece
  | .text s => .text s
  | .tag t => .tag { t with line := t.line + k }

theorem map_textPiece (k : Nat) (t : List Char) : (textPiece t).map (down k) = textPiece t := by
  unfold textPiece
  split <;> rfl

theorem lineOf_add (h : Text.lineFeeds after ≤ total) (k : Nat) :
    lineOf (total + k) after = lineOf total after + k := by
  unfold lineOf
  omega

theorem Lead.ofTag_add (h : Lead.ofTag kind body inside rest = .tags front after)
    (hbody : Text.lineFeeds body ≤ total) (hafter : Text.lineFeeds after ≤ total) (k : Nat) :
    front (total + k) = (front total).map (down k) := by
  unfold Lead.ofTag at h
  dsimp only at h
  split_ifs at h
  · cases hspan : spanRaw rest with
    | none =>
        rw [hspan] at h
        cases h
    | some found =>
        obtain ⟨raw, left, right, tail⟩ := found
        rw [hspan] at h
        cases h
        simp only [lineOf_add hbody, lineOf_add hafter, List.cons_append, List.map_cons, List.map_append,
          map_textPiece, List.map_nil, down]
  · cases h
    simp only [lineOf_add hbody, List.map_cons, List.map_nil, down]

theorem lineFeeds_body_le (h : (spanText s).2 = some (kind, body)) :
    Text.lineFeeds body ≤ Text.lineFeeds s := by
  obtain ⟨o, -, hsource, -⟩ := spanText_front (Prod.ext rfl h)
  rw [hsource, lineFeeds_append]
  unfold Text.lineFeeds
  rw [List.count_cons, List.count_cons]
  omega

theorem lineFeeds_rest_le (h : lead s = some (.tags front rest)) :
    Text.lineFeeds rest ≤ Text.lineFeeds s := by
  obtain ⟨more, hmore, -⟩ := exists_opensFrom_behind h
  omega

theorem tagsFrom_add {total : Nat} {s : List Char} (h : Text.lineFeeds s ≤ total) (k : Nat) :
    Alike (fun e e' => e' = (e.1 + k, e.2)) (fun ps ps' => ps' = ps.map (down k)) (tagsFrom total s)
      (tagsFrom (total + k) s) := by
  unfold tagsFrom
  cases hlead : lead s with
  | none => exact .ok rfl
  | some found =>
    cases found with
    | fault after fault =>
        obtain ⟨kind, hs⟩ := exists_kind_of_fault hlead
        refine .error ?_
        rw [lineOf_add ((lineFeeds_body_le hs).trans h)]
    | tags front rest =>
        have hrest : Text.lineFeeds rest ≤ total := (lineFeeds_rest_le hlead).trans h
        obtain ⟨kind, body, hs, ⟨close, hfault⟩ | ⟨inside, tail, hi, hfound⟩⟩ := exists_of_lead hlead
        · cases hfault
        have hfront := Lead.ofTag_add hfound ((lineFeeds_body_le hs).trans h) hrest k
        have hcut : Alike (fun e e' => e' = (e.1 + k, e.2)) (fun ps ps' => ps' = ps.map (down k))
            (cutFrom total rest) (cutFrom (total + k) rest) := by
          rw [cutFrom_eq, cutFrom_eq]
          refine (tagsFrom_add hrest k).map fun ps ps' hps => ?_
          rw [hps, List.map_append, map_textPiece]
        refine hcut.map fun ps ps' hps => ?_
        rw [hps, List.map_append, hfront]
termination_by s.length
decreasing_by exact length_of_lead hlead

theorem tokens_append (ps qs : List Piece) : tokens (ps ++ qs) = tokens ps ++ tokens qs := by
  unfold tokens
  rw [List.filterMap_append, List.flatMap_append]

theorem tokens_textPiece (t : List Char) : tokens (textPiece t) = [] := by
  unfold textPiece
  split <;> rfl

theorem relined_tokens_down (k : Nat) (ps : List Piece) :
    List.Forall₂ (Part.Relined fun l l' => l' = l + k) (tokens ps) (tokens (ps.map (down k))) := by
  induction ps with
  | nil => exact .nil
  | cons p ps ih =>
      cases p with
      | text t => exact ih
      | tag t =>
          obtain ⟨kind, inner, line, left, right⟩ := t
          cases kind with
          | output => exact .cons (.output inner rfl) ih
          | statement => exact .cons (.statement inner rfl) ih
          | comment => exact ih

/-- A source behind a text without tags has the same tags further down. -/
theorem cut_append_of_passes {t : List Char} (ht : Passes t) (s : List Char) :
    Alike (fun e e' => e' = (e.1 + Text.lineFeeds t, e.2))
      (fun ps ps' => List.Forall₂ (Part.Relined fun l l' => l' = l + Text.lineFeeds t) (tokens ps) (tokens ps'))
      (cut s) (cut (t ++ s)) := by
  rw [cut_eq, cut_eq, cutFrom_of_passes ht, cutFrom_eq, lineFeeds_append, Nat.add_comm]
  refine (tagsFrom_add (Nat.le_refl _) _).map fun ps ps' hps => ?_
  rw [tokens_append, tokens_append, tokens_textPiece, tokens_textPiece, hps]
  exact relined_tokens_down _ ps

end Piece

/-! ### Lines of errors -/

section
variable {options : Spacing} {name : String} {source : List Char} {line : Nat} {fault : SyntaxFault}

/-- Every part with a line is on the line of the opening of its tag. -/
theorem exists_opening_of_part {pieces : List Piece} (hcut : Piece.cut source = .ok pieces)
    {ps qs : List Part} {part : Part} (hparts : options.apply pieces = ps ++ part :: qs)
    (hline : part.line? = some line) :
    ∃ before tag after above, pieces = before ++ .tag tag :: after ∧ Spacing.tagParts tag = [part] ∧
      Part.dropTexts ps = Piece.tokens before ∧ Piece.OpensAt source above tag.kind before ∧
      line = 1 + Text.lineFeeds above := by
  obtain ⟨before, tag, after, rfl, htag, hbefore⟩ := exists_tag_of_part hparts (by simp [hline])
  have hkind : tag.kind ≠ .comment := by
    intro hcomment
    rw [Spacing.tagParts, hcomment] at htag
    cases htag
  have htagline : tag.line = line := by
    obtain ⟨kind, inner, line', left, right⟩ := tag
    cases kind with
    | output =>
        cases htag
        exact Option.some.inj hline
    | statement =>
        cases htag
        exact Option.some.inj hline
    | comment => exact absurd rfl hkind
  rw [Piece.cut_eq, ← Nat.zero_add (Text.lineFeeds source)] at hcut
  obtain ⟨above, habove⟩ := Piece.exists_opening_of_tag hcut rfl hkind
  have hcut' := habove.cut
  rw [Nat.zero_add, ← Piece.cut_eq] at hcut'
  refine ⟨before, tag, after, above, rfl, htag, hbefore, ⟨hcut', habove.free, habove.opening⟩, ?_⟩
  rw [← htagline, habove.line_eq, Nat.zero_add]

/-- A source that is not read fails on the line of the opening of a tag. -/
theorem exists_opening_of_error (h : parseChars options name source = .error (line, fault)) :
    ∃ above kind before, Piece.OpensAt source above kind before ∧ line = 1 + Text.lineFeeds above := by
  unfold parseChars at h
  cases hcut : Piece.cut source with
  | error e =>
      rw [hcut] at h
      cases h
      rw [Piece.cut_eq, ← Nat.zero_add (Text.lineFeeds source)] at hcut
      obtain ⟨above, kind, before, habove⟩ := Piece.exists_opening_of_fault hcut
      have hcut' := habove.cut
      rw [Nat.zero_add, ← Piece.cut_eq] at hcut'
      refine ⟨above, kind, before, ⟨hcut', habove.free, habove.opening⟩, ?_⟩
      rw [habove.line_eq, Nat.zero_add]
  | ok pieces =>
      rw [hcut] at h
      obtain ⟨part, hpart, hline⟩ := Progress.exists_part_of_error h
      obtain ⟨ps, qs, hparts⟩ := List.append_of_mem hpart
      obtain ⟨before, tag, -, above, -, -, -, hopens, hline'⟩ :=
        exists_opening_of_part hcut hparts hline
      exact ⟨above, tag.kind, before, hopens, hline'⟩

/-- A source behind a text without tags fails where the source does, further down. -/
theorem parseChars_append_of_passes {t : List Char} (ht : Piece.Passes t)
    (h : parseChars options name source = .error (line, fault)) :
    parseChars options name (t ++ source) = .error (line + Text.lineFeeds t, fault) := by
  have hcut := Piece.cut_append_of_passes ht source
  unfold parseChars at h ⊢
  generalize Piece.cut source = x at hcut h
  generalize Piece.cut (t ++ source) = y at hcut
  cases hcut with
  | error he =>
      cases h
      rw [he]
  | @ok ps ps' htokens =>
      have halike := Progress.template_relined htokens name
      rw [← dropTexts_applyFrom options none, ← dropTexts_applyFrom options none, Progress.template_dropTexts,
        Progress.template_dropTexts] at halike
      obtain ⟨_, _, hok, -, -⟩ | ⟨e, ⟨line', fault'⟩, herror, herror', hline, hfault⟩ := halike.cases_eq
      · obtain ⟨t, ht, -⟩ := map_eq_ok.mp hok
        cases h.symm.trans ht
      · cases h.symm.trans (map_eq_error.mp herror)
        dsimp only at hline hfault
        rw [← hline, ← hfault]
        exact map_eq_error.mp herror'

end

/-- Every token of a content is on the line where its tag opens, and every error is on such a line. A text
without tags that ends with a line in front of the content moves the error down. -/
theorem parse_lines (options : Spacing) (name content : String) :
    (∀ pieces, Piece.cut content.toList = .ok pieces → ∀ ps part qs line,
      options.apply pieces = ps ++ part :: qs → part.line? = some line →
      ∃ before tag after above, pieces = before ++ .tag tag :: after ∧ Spacing.tagParts tag = [part] ∧
        Part.dropTexts ps = Piece.tokens before ∧ Piece.OpensAt content.toList above tag.kind before ∧
        line = 1 + Text.lineFeeds above) ∧
    ∀ e, parse options name content = .error e → ∃ line fault, e = .invalidSyntax name line fault ∧
      (∃ above kind before, Piece.OpensAt content.toList above kind before ∧
        line = 1 + Text.lineFeeds above) ∧
      ∀ text : String, HoldsNoOpening text.toList → text.toList.getLast? = some '\n' →
        parse options name (text ++ content) =
          .error (.invalidSyntax name (line + Text.lineFeeds text.toList) fault) := by
  refine ⟨fun pieces hcut ps part qs line => exists_opening_of_part hcut, fun e h => ?_⟩
  unfold parse at h
  split at h
  · next line fault herror =>
      refine ⟨line, fault, (Except.error.inj h).symm, exists_opening_of_error herror, ?_⟩
      intro text htext hlast
      have hpasses : Piece.Passes text.toList :=
        Piece.passes_of_spanText_none (Piece.spanText_of_holdsNoOpening htext) (by rw [hlast]; decide)
      have hbelow := parseChars_append_of_passes hpasses herror
      unfold parse
      rw [String.toList_append, hbelow]
  · cases h

/-- A comment over three lines and an end tag without a beginning. -/
def strayEndif : String := "\x7b# a\nb\n#\x7d\x7b% endif %\x7d"

/-- The end tag is on the third line, and on the fifth one behind two more lines. -/
theorem parse_lines_strayEndif :
    (∃ above before, Piece.OpensAt strayEndif.toList above .statement before ∧ Text.lineFeeds above = 2) ∧
    parse .standard "stray" strayEndif = .error (.invalidSyntax "stray" 3 (.unexpected "endif")) ∧
    parse .standard "stray" ("\n\x7d\n" ++ strayEndif) =
      .error (.invalidSyntax "stray" 5 (.unexpected "endif")) := by
  have hcut : Piece.cut strayEndif.toList =
      .ok [.tag ⟨.comment, "a\nb".toList, 1, .plain, .plain⟩,
        .tag ⟨.statement, "endif".toList, 3, .plain, .plain⟩] := by
    refine @Piece.cut_of_cutWithin 3 _ _ ?_
    decide +kernel
  have herror : parse .standard "stray" strayEndif =
      .error (.invalidSyntax "stray" 3 (.unexpected "endif")) := by
    unfold parse parseChars
    rw [hcut]
    rfl
  have htext : HoldsNoOpening "\n\x7d\n".toList := fun c kind _ hopening =>
    absurd (hopening.subset List.mem_cons_self) (by decide)
  obtain ⟨htokens, herrors⟩ := parse_lines .standard "stray" strayEndif
  obtain ⟨before, tag, after, above, -, htag, -, hopens, hline⟩ :=
    htokens _ hcut [] (.statement "endif".toList 3) [] 3 rfl rfl
  obtain ⟨line, fault, heq, -, hbelow⟩ := herrors _ herror
  cases heq
  refine ⟨⟨above, before, ?_, by omega⟩, herror, hbelow _ htext rfl⟩
  obtain ⟨kind, inner, line', left, right⟩ := tag
  cases kind with
  | statement => exact hopens
  | output => cases htag
  | comment => cases htag

end ClassScribe.Template
