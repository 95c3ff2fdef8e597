import ClassScribe.Proofs.Expr.RoundTrip
import ClassScribe.Proofs.Template.Cutting
import ClassScribe.Proofs.Template.Grammar

/-! # Checking outlines

What a template source says can be checked against an outline: `Node.read?` goes along the parts of
the source and the outline at once and returns the parts that are left. What passes the check says the
outline (`says_of_readAll?`), so it is parsed as the template of the outline (`parse_of_saysOutline`). The
check never parses an expression; it compares tokens. The sources may be checked by evaluation that
way. -/

namespace ClassScribe.Template

/-! ### Statements -/

namespace Part

/-- Whether a text is read as an expression. -/
def states (e : Expr) (source : List Char) : Bool :=
  decide (Token.tokenize source = .ok e.tokens) && e.isWritable && e.filterNames.all Filter.isKnown

/-- Whether a statement is a keyword and an expression. -/
def statesIf (word : String) (condition : Expr) (source : List Char) : Bool :=
  decide (keyword source = word.toList) && states condition (argument source)

/-- Whether a statement opens a loop. -/
def statesFor (target : String) (items : Expr) (source : List Char) : Bool :=
  decide (keyword source = "for".toList) &&
    match Text.splitOnce " in ".toList (argument source) with
    | some (before, after) =>
      decide (Text.trim before = target.toList) && Text.isIdentifier target.toList &&
        states items after
    | none => false

/-- Whether a statement gives a variable a value. -/
def statesSet (name : String) (value : Expr) (source : List Char) : Bool :=
  decide (keyword source = "set".toList) &&
    match Text.splitOnce ['='] (argument source) with
    | some (before, after) =>
      decide (Text.trim before = name.toList) && Text.isIdentifier name.toList && states value after
    | none => false

/-- Whether a statement opens a block. -/
def statesBlock (name : String) (required : Bool) (source : List Char) : Bool :=
  decide (keyword source = "block".toList) &&
    decide (Text.words (argument source) =
      name.toList :: if required then ["required".toList] else []) &&
    Text.isIdentifier name.toList

/-- Whether a statement names the parent of the template. -/
def statesExtends (parent : String) (source : List Char) : Bool :=
  decide (keyword source = "extends".toList) &&
    decide (Progress.dropQuotes (argument source) = parent.toList) && !parent.toList.isEmpty

/-- Whether a statement ends a construct. -/
def statesEnd (word : String) (source : List Char) : Bool :=
  decide (keyword source = word.toList)

/-- Whether a statement ends a block. -/
def statesEndblock (name : String) (source : List Char) : Bool :=
  decide (keyword source = "endblock".toList) &&
    ((argument source).isEmpty || decide (argument source = name.toList))

/-- The parts behind a statement of some form. -/
def dropStatement? (form : List Char → Bool) : List Part → Option (List Part)
  | .statement source _ :: rest => if form source then some rest else none
  | _ => none

end Part

open Template.Part

/-! ### Statements that pass the check -/

section
variable {source : List Char} {e : Expr} {name : String}

theorem expresses_of_states (h : states e source = true) : Expresses source e := by
  unfold states at h
  rw [Bool.and_eq_true, Bool.and_eq_true, decide_eq_true_eq] at h
  obtain ⟨⟨htokens, hwritable⟩, hknown⟩ := h
  exact ⟨Expr.parse_of_tokenize hwritable htokens, List.all_eq_true.mp hknown⟩

theorem written_of_argument {st : Statement} {passed : List (List Char)}
    (hword : keyword source = st.keyword.toList) (harg : st.Argument (argument source) passed) :
    st.Written (fun _ => True) source := ⟨passed, Statement.says_iff.mpr ⟨hword, harg⟩, trivial⟩

theorem written_of_statesIf {st : Statement} {word : String}
    (harg : ∀ s, Expresses s e → st.Argument s []) (hst : st.keyword = word)
    (h : statesIf word e source = true) : st.Written (fun _ => True) source := by
  unfold statesIf at h
  rw [Bool.and_eq_true, decide_eq_true_eq] at h
  exact written_of_argument (by rw [hst]; exact h.1) (harg _ (expresses_of_states h.2))

theorem written_of_statesFor (h : statesFor name e source = true) :
    (Statement.loop name e).Written (fun _ => True) source := by
  unfold statesFor at h
  rw [Bool.and_eq_true, decide_eq_true_eq] at h
  obtain ⟨hword, h⟩ := h
  split at h
  · next before after hsplit =>
      rw [Bool.and_eq_true, Bool.and_eq_true, decide_eq_true_eq] at h
      obtain ⟨⟨htarget, hid⟩, hitems⟩ := h
      exact written_of_argument hword
        (argument_loop (Text.trim_trim _) hsplit htarget hid (expresses_of_states hitems))
  · cases h

theorem written_of_statesSet (h : statesSet name e source = true) :
    (Statement.assign name e).Written (fun _ => True) source := by
  unfold statesSet at h
  rw [Bool.and_eq_true, decide_eq_true_eq] at h
  obtain ⟨hword, h⟩ := h
  split at h
  · next before after hsplit =>
      rw [Bool.and_eq_true, Bool.and_eq_true, decide_eq_true_eq] at h
      obtain ⟨⟨hname, hid⟩, hvalue⟩ := h
      exact written_of_argument hword
        (argument_assign (Text.trim_trim _) hsplit hname hid (expresses_of_states hvalue))
  · cases h

theorem written_of_statesBlock {required : Bool} (h : statesBlock name required source = true) :
    (Statement.block name required).Written (fun _ => True) source := by
  unfold statesBlock at h
  rw [Bool.and_eq_true, Bool.and_eq_true, decide_eq_true_eq, decide_eq_true_eq] at h
  obtain ⟨⟨hword, hwords⟩, hid⟩ := h
  cases required with
  | false => exact written_of_argument hword (.block hid hwords)
  | true => exact written_of_argument hword (.required hid hwords)

theorem written_of_statesExtends (h : statesExtends name source = true) :
    (Statement.parent name).Written (fun _ => True) source := by
  unfold statesExtends at h
  rw [Bool.and_eq_true, Bool.and_eq_true, decide_eq_true_eq, decide_eq_true_eq] at h
  obtain ⟨⟨hword, hname⟩, hne⟩ := h
  have harg := Statement.Argument.parent (s := argument source) (by
    rw [hname]
    simpa using hne)
  rw [hname, String.ofList_toList] at harg
  exact written_of_argument hword harg

theorem written_of_statesEnd {st : Statement} {word : String}
    (harg : st.Argument (argument source) (Text.words (argument source))) (hst : st.keyword = word)
    (h : statesEnd word source = true) : st.Written (fun _ => True) source :=
  written_of_argument (by rw [hst]; exact decide_eq_true_eq.mp h) harg

theorem written_of_statesEndblock (h : statesEndblock name source = true) :
    ∃ label, (∀ l ∈ label, l = name) ∧
      (Statement.endblock label).Written (fun _ => True) source := by
  unfold statesEndblock at h
  rw [Bool.and_eq_true, Bool.or_eq_true, decide_eq_true_eq, decide_eq_true_eq] at h
  obtain ⟨hword, harg⟩ := h
  by_cases hempty : argument source = []
  · have hend : (Statement.endblock none).Argument (argument source) [] := by
      rw [hempty]
      exact .endblock
    exact ⟨none, by simp, written_of_argument hword hend⟩
  · have hname : argument source = name.toList :=
      harg.resolve_left fun h => hempty (List.isEmpty_iff.mp h)
    have hend : (Statement.endblock (some name)).Argument (argument source) [] := by
      rw [hname] at hempty ⊢
      exact .endblockName hempty
    exact ⟨some name, by simp, written_of_argument hword hend⟩

end

/-! ### Outlines -/

namespace Node

mutual
/-- What is left of parts that start with a node. -/
def read? : Node → List Part → Option (List Part)
  | .text s, parts =>
    match parts with
    | .text cs :: rest => if String.ofList cs = s then some rest else none
    | _ => none
  | .output e, parts =>
    match parts with
    | .output source _ :: rest =>
      if source ≠ "super()".toList ∧ states e source = true then some rest else none
    | _ => none
  | .super, parts =>
    match parts with
    | .output source _ :: rest => if source = "super()".toList then some rest else none
    | _ => none
  | .assign name value, parts => dropStatement? (statesSet name value) parts
  | .loop target items body, parts =>
    (dropStatement? (statesFor target items) parts).bind fun parts =>
      (readAll? body parts).bind (dropStatement? (statesEnd "endfor"))
  | .block name required body, parts =>
    (dropStatement? (statesBlock name required) parts).bind fun parts =>
      (readAll? body parts).bind (dropStatement? (statesEndblock name))
  | .choice branches otherwise, parts =>
    match branches with
    | [] => none
    | (condition, body) :: more =>
      (dropStatement? (statesIf "if" condition) parts).bind fun parts =>
        (readAll? body parts).bind fun parts =>
          (readBranches? more parts).bind fun parts =>
            match dropStatement? (statesEnd "else") parts with
            | some parts => (readAll? otherwise parts).bind (dropStatement? (statesEnd "endif"))
            | none => if otherwise.isEmpty then dropStatement? (statesEnd "endif") parts else none
/-- What is left of parts that start with nodes. -/
def readAll? : List Node → List Part → Option (List Part)
  | [], parts => some parts
  | n :: rest, parts => (n.read? parts).bind (readAll? rest)
/-- What is left of parts that start with further branches of a choice. -/
def readBranches? : List (Expr × List Node) → List Part → Option (List Part)
  | [], parts => some parts
  | (condition, body) :: rest, parts =>
    (dropStatement? (statesIf "elif" condition) parts).bind fun parts =>
      (readAll? body parts).bind (readBranches? rest)
end

end Node

/-! ### Outlines that pass the check -/

theorem exists_of_dropStatement? {form : List Char → Bool} {parts rest : List Part}
    (h : dropStatement? form parts = some rest) :
    ∃ source line, parts = .statement source line :: rest ∧ form source = true := by
  match parts with
  | [] | .text _ :: _ | .output _ _ :: _ => cases h
  | .statement source line :: tail =>
      have h' : (if form source = true then some tail else none) = some rest := h
      by_cases hf : form source = true
      · rw [if_pos hf] at h'
        exact ⟨source, line, by rw [Option.some.inj h'], hf⟩
      · rw [if_neg hf] at h'
        cases h'

namespace Node

variable {inside : Bool}

theorem says_of_end {otherwise : List Node}
    (hbody : ∀ {parts rest}, readAll? otherwise parts = some rest →
      ∃ ps, parts = ps ++ rest ∧ Phrase.Says (fun _ => True) inside (.nodes otherwise) ps)
    {parts rest : List Part}
    (h : (match dropStatement? (statesEnd "else") parts with
      | some parts => (readAll? otherwise parts).bind (dropStatement? (statesEnd "endif"))
      | none => if otherwise.isEmpty then dropStatement? (statesEnd "endif") parts else none) =
        some rest) :
    ∃ ps, parts = ps ++ rest ∧ Phrase.Says (fun _ => True) inside (.arms [] otherwise) ps := by
  split at h
  · next tail helse =>
      obtain ⟨source, line, rfl, hother⟩ := exists_of_dropStatement? helse
      obtain ⟨_, hread, hend⟩ := Option.bind_eq_some_iff.mp h
      obtain ⟨source', line', rfl, hendif⟩ := exists_of_dropStatement? hend
      obtain ⟨ps, rfl, hps⟩ := hbody hread
      exact ⟨.statement source line :: (ps ++ [.statement source' line']), by simp,
        .otherwise (written_of_statesEnd .otherwise rfl hother) hps
          (written_of_statesEnd .endif rfl hendif)⟩
  · obtain ⟨hempty, hend⟩ := Option.ite_none_right_eq_some.mp h
    obtain ⟨source, line, rfl, hendif⟩ := exists_of_dropStatement? hend
    rw [List.isEmpty_iff.mp hempty]
    exact ⟨[.statement source line], rfl, .endif (written_of_statesEnd .endif rfl hendif)⟩

mutual
/-- The parts in front of the ones that are left say the node. -/
theorem says_of_read? : ∀ (n : Node) {inside : Bool} {parts rest : List Part},
    n.read? parts = some rest → n.placesSuper inside = true →
    ∃ ps, parts = ps ++ rest ∧ Phrase.Says (fun _ => True) inside (.nodes [n]) ps
  | .text s, inside, parts, rest, h, _ => by
      match parts with
      | [] | .output _ _ :: _ | .statement _ _ :: _ => cases h
      | .text cs :: tail =>
          have h' : (if String.ofList cs = s then some tail else none) = some rest := h
          obtain ⟨rfl, htail⟩ := Option.ite_none_right_eq_some.mp h'
          exact ⟨[.text cs], by rw [Option.some.inj htail]; rfl, .text .done⟩
  | .output e, inside, parts, rest, h, _ => by
      match parts with
      | [] | .text _ :: _ | .statement _ _ :: _ => cases h
      | .output source line :: tail =>
          have h' : (if source ≠ "super()".toList ∧ states e source = true then some tail else none) =
            some rest := h
          obtain ⟨⟨hsource, hstates⟩, htail⟩ := Option.ite_none_right_eq_some.mp h'
          exact ⟨[.output source line], by rw [Option.some.inj htail]; rfl,
            .output hsource (expresses_of_states hstates) .done⟩
  | .super, inside, parts, rest, h, hsuper => by
      match parts with
      | [] | .text _ :: _ | .statement _ _ :: _ => cases h
      | .output source line :: tail =>
          have h' : (if source = "super()".toList then some tail else none) = some rest := h
          obtain ⟨rfl, htail⟩ := Option.ite_none_right_eq_some.mp h'
          obtain rfl : inside = true := hsuper
          exact ⟨[.output "super()".toList line], by rw [Option.some.inj htail]; rfl, .super .done⟩
  | .assign name value, inside, parts, rest, h, _ => by
      obtain ⟨source, line, rfl, hset⟩ := exists_of_dropStatement? h
      exact ⟨[_], rfl, .assign (written_of_statesSet hset) .done⟩
  | .loop target items body, inside, parts, rest, h, hsuper => by
      obtain ⟨parts₁, hopen, htail⟩ := Option.bind_eq_some_iff.mp h
      obtain ⟨parts₂, hbody, hend⟩ := Option.bind_eq_some_iff.mp htail
      obtain ⟨source, line, rfl, hfor⟩ := exists_of_dropStatement? hopen
      obtain ⟨source', line', rfl, hendfor⟩ := exists_of_dropStatement? hend
      obtain ⟨ps, rfl, hsays⟩ := says_of_readAll? body hbody hsuper
      exact ⟨.statement source line :: (ps ++ [.statement source' line']), by simp,
        .loop (written_of_statesFor hfor) hsays (written_of_statesEnd .endfor rfl hendfor) .done⟩
  | .block name required body, inside, parts, rest, h, hsuper => by
      obtain ⟨parts₁, hopen, htail⟩ := Option.bind_eq_some_iff.mp h
      obtain ⟨parts₂, hbody, hend⟩ := Option.bind_eq_some_iff.mp htail
      obtain ⟨source, line, rfl, hblock⟩ := exists_of_dropStatement? hopen
      obtain ⟨source', line', rfl, hendblock⟩ := exists_of_dropStatement? hend
      obtain ⟨ps, rfl, hsays⟩ := says_of_readAll? body hbody hsuper
      obtain ⟨label, hlabel, hclose⟩ := written_of_statesEndblock hendblock
      exact ⟨.statement source line :: (ps ++ [.statement source' line']), by simp,
        .block (written_of_statesBlock hblock) hsays hlabel hclose .done⟩
  | .choice [] otherwise, inside, parts, rest, h, _ => by cases h
  | .choice ((condition, body) :: more) otherwise, inside, parts, rest, h, hsuper => by
      obtain ⟨parts₁, hopen, htail⟩ := Option.bind_eq_some_iff.mp h
      obtain ⟨parts₂, hbody, htail'⟩ := Option.bind_eq_some_iff.mp htail
      obtain ⟨parts₃, hmore, hend⟩ := Option.bind_eq_some_iff.mp htail'
      obtain ⟨source, line, rfl, hif⟩ := exists_of_dropStatement? hopen
      obtain ⟨hbranches, hsuper'⟩ := Bool.and_eq_true_iff.mp hsuper
      obtain ⟨hsuper₁, hsuper₂⟩ := Bool.and_eq_true_iff.mp hbranches
      obtain ⟨ps, rfl, hsays⟩ := says_of_readAll? body hbody hsuper₁
      obtain ⟨qs, rfl, harms⟩ := says_of_readBranches? more hmore hsuper₂
      obtain ⟨rs, rfl, hrs⟩ := says_of_end (fun h => says_of_readAll? otherwise h hsuper') hend
      exact ⟨.statement source line :: (ps ++ ((qs ++ rs) ++ [])), by simp,
        .choice (written_of_statesIf (fun _ => .branch) rfl hif) hsays (harms hrs) .done⟩
theorem says_of_readAll? : ∀ (ns : List Node) {inside : Bool} {parts rest : List Part},
    readAll? ns parts = some rest → allPlaceSuper inside ns = true →
    ∃ ps, parts = ps ++ rest ∧ Phrase.Says (fun _ => True) inside (.nodes ns) ps
  | [], inside, parts, rest, h, _ => ⟨[], Option.some.inj h, .done⟩
  | n :: ns, inside, parts, rest, h, hsuper => by
      obtain ⟨parts₁, hn, hrest⟩ := Option.bind_eq_some_iff.mp h
      have hs := Bool.and_eq_true_iff.mp hsuper
      obtain ⟨ps, rfl, hfirst⟩ := says_of_read? n hn hs.1
      obtain ⟨qs, rfl, hmore⟩ := says_of_readAll? ns hrest hs.2
      exact ⟨ps ++ qs, (List.append_assoc ps qs rest).symm, hfirst.append hmore⟩
theorem says_of_readBranches? : ∀ (bs : List (Expr × List Node)) {inside : Bool}
    {parts rest : List Part}, readBranches? bs parts = some rest →
    branchesPlaceSuper inside bs = true → ∃ ps, parts = ps ++ rest ∧
      ∀ {qs : List Part} {otherwise : List Node},
        Phrase.Says (fun _ => True) inside (.arms [] otherwise) qs →
        Phrase.Says (fun _ => True) inside (.arms bs otherwise) (ps ++ qs)
  | [], inside, parts, rest, h, _ => ⟨[], Option.some.inj h, id⟩
  | (next, body) :: bs, inside, parts, rest, h, hsuper => by
      obtain ⟨parts₁, hopen, htail⟩ := Option.bind_eq_some_iff.mp h
      obtain ⟨parts₂, hbody, hrest⟩ := Option.bind_eq_some_iff.mp htail
      obtain ⟨source, line, rfl, helif⟩ := exists_of_dropStatement? hopen
      have hs := Bool.and_eq_true_iff.mp hsuper
      obtain ⟨ps, rfl, hsays⟩ := says_of_readAll? body hbody hs.1
      obtain ⟨qs, rfl, hmore⟩ := says_of_readBranches? bs hrest hs.2
      refine ⟨.statement source line :: (ps ++ qs), by simp, fun hend => ?_⟩
      rw [List.cons_append, List.append_assoc]
      exact .elif (written_of_statesIf (fun _ => .elif) rfl helif) hsays (hmore hend)
end

end Node

/-! ### Sources -/

namespace Piece

/-- The pieces of what is left of a source with `total` line feeds, if there are at most `bound` tags
and no raw section in it. -/
def cutWithin (total : Nat) : Nat → List Char → Option (List Piece)
  | 0, _ => none
  | bound + 1, s =>
    match spanText s with
    | (before, none) => some (textPiece before)
    | (before, some (kind, body)) =>
      match spanInner (closer kind) (kind != .comment) none (leadMarker body).2 with
      | none => none
      | some (inside, rest) =>
        let (right, inside) := tailMarker inside
        let inner := Text.trim inside
        if kind = .statement ∧ (inner = "endraw".toList ∨ inner = "raw".toList) then none
        else
          (cutWithin total bound rest).map fun more =>
            textPiece before ++
              .tag ⟨kind, inner, lineOf total body, (leadMarker body).1, right⟩ :: more

theorem cutFrom_of_cutWithin {total : Nat} : ∀ {bound : Nat} {s : List Char} {pieces : List Piece},
    cutWithin total bound s = some pieces → cutFrom total s = .ok pieces
  | 0, _, _, h => by cases h
  | bound + 1, s, pieces, h => by
      rw [cutWithin] at h
      rw [cutFrom]
      split
      · next before hs =>
          rw [hs] at h
          rw [← Option.some.inj h]
      · next before kind body hs =>
          rw [hs] at h
          dsimp only at h
          split
          · next hi =>
              rw [hi] at h
              cases h
          · next inside rest hi =>
              rw [hi] at h
              dsimp only at h ⊢
              by_cases hraw : kind = .statement ∧
                  (Text.trim (tailMarker inside).2 = "endraw".toList ∨
                    Text.trim (tailMarker inside).2 = "raw".toList)
              · rw [if_pos hraw] at h
                cases h
              · obtain ⟨more, hmore, hpieces⟩ :=
                  Option.map_eq_some_iff.mp ((if_neg hraw).symm.trans h)
                rw [if_neg fun hc => hraw ⟨hc.1, .inl hc.2⟩, if_neg fun hc => hraw ⟨hc.1, .inr hc.2⟩,
                  cutFrom_of_cutWithin hmore, ← hpieces]
                rfl

theorem cut_of_cutWithin {bound : Nat} {s : List Char} {pieces : List Piece}
    (h : cutWithin (Text.lineFeeds s) bound s = some pieces) : cut s = .ok pieces :=
  (cut_eq s).trans (cutFrom_of_cutWithin h)

end Piece

/-- What follows the statement that names the parent, if there is to be one. -/
def dropExtends? (parent : Option String) (parts : List Part) : Option (List Part) :=
  match parent with
  | none => some parts
  | some name => dropStatement? (statesExtends name) parts

/-- Whether a source of at most `bound` tags says what an outline does. -/
def saysOutline (options : Spacing) (parent : Option String) (nodes : List Node) (bound : Nat)
    (source : List Char) : Bool :=
  match Piece.cutWithin (Text.lineFeeds source) bound source with
  | none => false
  | some pieces =>
    ((dropExtends? parent (options.apply pieces)).bind (Node.readAll? nodes)).any List.isEmpty &&
      Node.allPlaceSuper false nodes && decide (Distinct (Node.blocksOf nodes))

/-- A source that says what an outline does is a sentence for the outline. -/
theorem sentence_of_saysOutline {options : Spacing} {parent : Option String} {nodes : List Node}
    {bound : Nat} {source : List Char} (h : saysOutline options parent nodes bound source = true) :
    ∃ pieces, Piece.cut source = .ok pieces ∧
      Sentence (fun _ => True) parent nodes (options.apply pieces) ∧ Distinct (Node.blocksOf nodes) := by
  unfold saysOutline at h
  split at h
  · cases h
  · next pieces hcut =>
      rw [Bool.and_eq_true, Bool.and_eq_true, decide_eq_true_eq, Option.any_eq_true] at h
      obtain ⟨⟨⟨rest, hread, hempty⟩, hsuper⟩, hd⟩ := h
      obtain ⟨parts, hparent, hnodes⟩ := Option.bind_eq_some_iff.mp hread
      obtain ⟨ps, hparts, hsays⟩ := Node.says_of_readAll? nodes hnodes hsuper
      rw [List.isEmpty_iff.mp hempty, List.append_nil] at hparts
      refine ⟨pieces, Piece.cut_of_cutWithin hcut, ?_, hd⟩
      cases parent with
      | none =>
          rw [Option.some.inj hparent, hparts]
          exact .root hsays
      | some above =>
          obtain ⟨source, line, happly, hextends⟩ := exists_of_dropStatement? hparent
          rw [happly, hparts]
          exact .child .done (written_of_statesExtends hextends) hsays

/-- A source that says what an outline does is parsed as the template of the outline. -/
theorem parse_of_saysOutline {options : Spacing} {parent : Option String} {nodes : List Node}
    {bound : Nat} {name content : String}
    (h : saysOutline options parent nodes bound content.toList = true) :
    parse options name content = .ok (ofOutline name parent nodes) := by
  obtain ⟨pieces, hcut, hsentence, hd⟩ := sentence_of_saysOutline h
  exact parse_eq_ok_iff_sentence.mpr ⟨pieces, parent, nodes, hcut, hsentence, hd, rfl⟩

end ClassScribe.Template
