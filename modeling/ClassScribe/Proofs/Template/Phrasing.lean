import ClassScribe.Proofs.Template.Grammar
import ClassScribe.Proofs.Template.Lexing

/-! # What written templates say

Every statement that has been written is cut off as that statement (`lexesAs_of_argument`), and elements
that have been written with the blocks in their slots say their nodes (`lexes_inlineElements`,
`lexes_blockNode`). -/

namespace ClassScribe.Template

variable {write : Expr → List Char} {s : List Char} {e : Expr} {name : String} {inside : Bool}

/-! ### Expressions -/

theorem expresses_of_spells (he : Expressible e) (hs : Token.Spells s e.tokens) : Expresses s e :=
  ⟨Expr.parse_of_spells he.1 hs, he.2⟩

theorem trimEnd_ne_nil (he : Expressible e) (hs : Token.Spells s e.tokens) : Text.trimEnd s ≠ [] := by
  have hall := Expr.allWritable_tokens he.1
  obtain ⟨_, _, htokens, -⟩ := Expr.startsAt_tokens he.1
  refine Text.trimEnd_ne_nil fun hblank => ?_
  have hnone := Token.spells_of_allBlank hblank hs hall
  rw [htokens] at hnone
  cases hnone

/-- The call of a body is no expression: that would end behind the name. -/
theorem not_expresses_super : ¬Expresses "super()".toList e := by
  have htext : "super()".toList = (Token.name "super").spelling ++
      ((Token.symbol .openParen).spelling ++ ((Token.symbol .closeParen).spelling ++ [])) := by
    decide
  have hcall : Token.Spells "super()".toList
      [.name "super", .symbol .openParen, .symbol .closeParen] := by
    rw [htext]
    exact .token (by decide) (.token (by decide) (.token (by decide) .done))
  rintro ⟨hparse, -⟩
  unfold Expr.parse at hparse
  rw [Token.tokenize_of_spells hcall (by decide)] at hparse
  simp [Expr.readLevel, Expr.readCondition, Expr.readOperands, Expr.readTail, Expr.operator?,
    Expr.ofName, Expr.Parsed.andThen, Expr.Parsed.done, Expr.Parsed.build] at hparse

theorem lexes_output (he : Expressible e) (hs : Token.Spells s e.tokens) :
    Lexes (outputText s) fun ps => ∃ source line,
      ps = [.output source line] ∧ source ≠ "super()".toList ∧ Expresses source e := by
  have hall := Expr.allWritable_tokens he.1
  have htrim := hs.trim hall
  refine (Lexes.output (Piece.spans_of_spells hs hall (.inr rfl))).mono ?_
  rintro ps ⟨line, rfl⟩
  have hsays := expresses_of_spells he htrim
  exact ⟨_, line, rfl, fun h => not_expresses_super (h ▸ hsays), hsays⟩

theorem lexes_super : Lexes (outputText "super()".toList) fun ps => ∃ line,
    ps = [.output "super()".toList line] := by
  have htrim : Text.trim "super()".toList = "super()".toList := by decide
  have hspans : Piece.Spans '\x7d' "super()".toList :=
    Piece.spans_of_not_mem (by decide) (by decide) (by decide)
  have h := Lexes.output hspans
  rwa [htrim] at h

/-! ### Statements -/

/-- Whether a text between the delimiters of a statement is cut off as a statement. -/
def LexesAs (st : Statement) (s : List Char) : Prop :=
  Lexes (statementText s) fun ps =>
    ∃ source line, ps = [.statement source line] ∧ st.Written (fun _ => True) source

/-- A statement that has been written is cut off, whatever white space its argument ends with. -/
theorem lexesAs_of_argument {st : Statement} {arg : List Char} {passed : List (List Char)}
    (hspans : Piece.Spans '%' arg) (hends : Text.EndsWord arg)
    (harg : st.Argument (Text.trim arg) passed) : LexesAs st (st.keyword.toList ++ arg) := by
  have hkey := st.isIdentifier_keyword
  have hword := Text.noBlank_of_isIdentifier hkey
  have htrim : Text.trim (st.keyword.toList ++ arg) = st.keyword.toList ++ Text.trimEnd arg :=
    Text.trim_word hword (Text.ne_nil_of_isIdentifier hkey) arg
  have hraw : ∀ w ∈ ["endraw", "raw"], Text.trim (st.keyword.toList ++ arg) ≠ w.toList := by
    intro w hw heq
    have hfirst : ∀ w ∈ ["endraw", "raw"], (Text.splitAtBlank w.toList).1 = w.toList := by decide
    have hst := hfirst w hw
    rw [← heq, htrim, Text.splitAtBlank_append hword hends.trimEnd, ← htrim, heq] at hst
    rw [← String.toList_inj.mp hst] at hw
    revert hw
    cases st <;> simp [Statement.keyword]
  refine (Lexes.statement ((Piece.spans_of_isIdentifier hkey (.inl rfl)).append hspans)
    (hraw _ (by simp)) (hraw _ (by simp))).mono ?_
  rintro ps ⟨line, rfl⟩
  exact ⟨_, line, rfl, passed, ⟨_, htrim, hends.trimEnd, by rwa [Text.trim_trimEnd]⟩, trivial⟩

theorem lexesAs_space {st : Statement} {lead : List Char} (word : String)
    (passed : List (List Char)) (hword : st.keyword = word)
    (hlead : lead = word.toList ++ [' ']) (hspans : Piece.Spans '%' s)
    (harg : st.Argument (Text.trim s) passed) : LexesAs st (lead ++ s) := by
  have htrim := Text.trim_pad Text.allBlank_space (List.forall_mem_nil _) s
  rw [List.append_nil] at htrim
  rw [hlead, ← hword, List.append_assoc]
  refine lexesAs_of_argument ?_ (fun c hc => Text.allBlank_space c ?_) (by rwa [htrim])
  · exact (Piece.spans_char (by decide) (by decide) (by decide)).append hspans
  · rw [← Option.some.inj hc]
    exact List.mem_singleton_self _

theorem flatMap_escape (hs : Text.isIdentifier s = true) : s.flatMap Token.escape = s := by
  have h : ∀ c ∈ s, Token.escape c = [c] := by
    intro c hc
    refine if_neg ?_
    rintro (rfl | rfl) <;> exact absurd (Text.isIdentPart_of_mem hs hc) (by decide)
  rw [List.flatMap_congr h, List.flatMap_singleton']

theorem dropQuotes_quoted (hne : s ≠ []) (hs : ∀ c ∈ s, c ≠ '"' ∧ c ≠ '\'') :
    Progress.dropQuotes ('"' :: (s ++ ['"'])) = s := by
  have hkept : ∀ u : List Char, u ≠ [] → (∀ c ∈ u, c ∈ s) → ∀ r,
      (u ++ r).dropWhile (fun c => c == '"' || c == '\'') = u ++ r := by
    intro u hu hmem r
    cases u with
    | nil => exact absurd rfl hu
    | cons c u =>
        exact List.dropWhile_cons_of_neg (by simp [hs c (hmem c List.mem_cons_self)])
  have hstart : ('"' :: (s ++ ['"'])).dropWhile (fun c => c == '"' || c == '\'') = s ++ ['"'] := by
    rw [List.dropWhile_cons_of_pos (by decide), hkept s hne (fun _ hc => hc)]
  have hend := hkept s.reverse (List.reverse_ne_nil_iff.mpr hne) (fun c => List.mem_reverse.mp) []
  rw [List.append_nil] at hend
  unfold Progress.dropQuotes Text.dropEndWhile
  dsimp only
  rw [hstart, List.reverse_append]
  show (('"' :: s.reverse).dropWhile _).reverse = s
  rw [List.dropWhile_cons_of_pos (by decide), hend, List.reverse_reverse]

theorem lexesAs_parent (hname : Text.isIdentifier name.toList = true) :
    LexesAs (.parent name) ("extends ".toList ++ ('"' :: (name.toList ++ ['"']))) := by
  have hne := Text.ne_nil_of_isIdentifier hname
  have hquotes := dropQuotes_quoted hne fun c hc =>
    (Text.isIdentPart_spec (Text.isIdentPart_of_mem hname hc)).2.2
  have htrimmed : Text.Trimmed ('"' :: (name.toList ++ ['"'])) := by
    have hquote : ∀ c ∈ some '"', Text.isBlank c = false := by
      intro c hc
      rw [← Option.some.inj hc]
      decide
    refine ⟨hquote, ?_⟩
    rwa [← List.cons_append, List.getLast?_concat]
  refine lexesAs_space "extends" [] rfl (by decide) ?_ ?_
  · have hspans : Piece.Spans '%' _ := Piece.spans_string name.toList
    rwa [flatMap_escape hname] at hspans
  · rw [Text.trim_of_trimmed htrimmed]
    have harg := Statement.Argument.parent (s := '"' :: (name.toList ++ ['"'])) (by rwa [hquotes])
    rwa [hquotes, String.ofList_toList] at harg

theorem lexesAs_block (hname : Text.isIdentifier name.toList = true) (required : Bool) :
    LexesAs (.block name required)
      ("block ".toList ++ (name.toList ++ if required then " required".toList else [])) := by
  have hword := Text.noBlank_of_isIdentifier hname
  have hne := Text.ne_nil_of_isIdentifier hname
  have hspans := Piece.spans_of_isIdentifier hname (.inl rfl)
  cases required with
  | false =>
      refine lexesAs_space "block" [] rfl (by decide) (hspans.append Piece.spans_nil) ?_
      rw [if_neg Bool.false_ne_true, Text.trim_append hword (List.forall_mem_nil _)]
      exact .block hname (Text.words_of_noBlank hword hne)
  | true =>
      refine lexesAs_space "block" [] rfl (by decide) (hspans.append ?_) ?_
      · exact Piece.spans_of_not_mem (by decide) (by decide) (by decide)
      · rw [Text.trim_word hword hne]
        exact .required hname (Text.words_append hword hne (by decide) "required".toList)

theorem lexesAs_loop {items : Expr} (hname : Text.isIdentifier name.toList = true)
    (hitems : Expressible items) (hs : Token.Spells s items.tokens) :
    LexesAs (.loop name items) ("for ".toList ++ (name.toList ++ (" in ".toList ++ s))) := by
  have hall := Expr.allWritable_tokens hitems.1
  refine lexesAs_space "for" [] rfl (by decide) ?_ ?_
  · exact (Piece.spans_of_isIdentifier hname (.inl rfl)).append
      ((Piece.spans_of_not_mem (by decide) (by decide) (by decide)).append
        (Piece.spans_of_spells hs hall (.inl rfl)))
  · rw [Text.trim_word (Text.noBlank_of_isIdentifier hname) (Text.ne_nil_of_isIdentifier hname),
      Text.trimEnd_append_of_ne_nil (trimEnd_ne_nil hitems hs)]
    have hblank : Text.AllBlank [] := List.forall_mem_nil _
    have harg := Statement.Argument.loop hname hblank
      (expresses_of_spells hitems (hs.trimEnd hall))
    rwa [List.append_nil] at harg

theorem lexesAs_assign (hname : Text.isIdentifier name.toList = true) (he : Expressible e)
    (hs : Token.Spells s e.tokens) :
    LexesAs (.assign name e) ("set ".toList ++ (name.toList ++ (" = ".toList ++ s))) := by
  have hall := Expr.allWritable_tokens he.1
  refine lexesAs_space "set" [] rfl (by decide) ?_ ?_
  · exact (Piece.spans_of_isIdentifier hname (.inl rfl)).append
      ((Piece.spans_of_not_mem (by decide) (by decide) (by decide)).append
        (Piece.spans_of_spells hs hall (.inl rfl)))
  · rw [Text.trim_word (Text.noBlank_of_isIdentifier hname) (Text.ne_nil_of_isIdentifier hname),
      Text.trimEnd_append_of_ne_nil (trimEnd_ne_nil he hs)]
    have hspells := Token.Spells.blank (c := ' ') (by decide) (hs.trimEnd hall)
    have harg := Statement.Argument.assign hname Text.allBlank_space (expresses_of_spells he hspells)
    rwa [List.append_assoc] at harg

theorem lexesAs_condition {st : Statement} {lead : List Char} (word : String)
    (harg : ∀ s, Expresses s e → st.Argument s []) (hword : st.keyword = word)
    (hlead : lead = word.toList ++ [' ']) (he : Expressible e) (hs : Token.Spells s e.tokens) :
    LexesAs st (lead ++ s) :=
  have hall := Expr.allWritable_tokens he.1
  lexesAs_space word [] hword hlead (Piece.spans_of_spells hs hall (.inl rfl))
    (harg _ (expresses_of_spells he (hs.trim hall)))

theorem lexesAs_branch (he : Expressible e) (hs : Token.Spells s e.tokens) :
    LexesAs (.branch e) ("if ".toList ++ s) :=
  lexesAs_condition "if" (fun _ => .branch) rfl (by decide) he hs

theorem lexesAs_elif (he : Expressible e) (hs : Token.Spells s e.tokens) :
    LexesAs (.elif e) ("elif ".toList ++ s) :=
  lexesAs_condition "elif" (fun _ => .elif) rfl (by decide) he hs

theorem lexesAs_keyword (st : Statement) {passed : List (List Char)} (harg : st.Argument [] passed) :
    LexesAs st st.keyword.toList := by
  have h : LexesAs st (st.keyword.toList ++ []) :=
    lexesAs_of_argument Piece.spans_nil (by simp [Text.EndsWord]) harg
  rwa [List.append_nil] at h

/-! ### Nodes -/

/-- Whether a text is cut into parts that say a phrase. -/
def LexesPhrase (inside : Bool) (phrase : Phrase) (s : List Char) : Prop :=
  Lexes s (Phrase.Says (fun _ => True) inside phrase)

namespace LexesPhrase

variable {t u v : List Char} {ns ms body other : List Node} {more : List (Expr × List Node)}

theorem nil : LexesPhrase inside (.nodes []) [] := Lexes.nil .done

theorem append (h : LexesPhrase inside (.nodes ns) s) (h' : LexesPhrase inside (.nodes ms) t) :
    LexesPhrase inside (.nodes (ns ++ ms)) (s ++ t) := by
  refine (Lexes.append h h').mono ?_
  rintro _ ⟨ps, qs, hps, hqs, rfl⟩
  exact hps.append hqs

theorem text {text : String} (hne : text ≠ "") (h : HoldsNoEndraw text.toList) :
    LexesPhrase inside (.nodes [.text text]) (rawText text.toList) := by
  refine (Lexes.raw (fun hnil => hne (String.toList_eq_nil_iff.mp hnil)) h).mono ?_
  rintro _ rfl
  have hsays : Phrase.Says (fun _ => True) inside _ _ := .text (s := text.toList) .done
  rwa [String.ofList_toList] at hsays

theorem output (he : Expressible e) (hs : Token.Spells s e.tokens) :
    LexesPhrase inside (.nodes [.output e]) (outputText s) := by
  refine (lexes_output he hs).mono ?_
  rintro _ ⟨source, line, rfl, hsource, hsays⟩
  exact .output hsource hsays .done

theorem super : LexesPhrase true (.nodes [.super]) (outputText "super()".toList) := by
  refine lexes_super.mono ?_
  rintro _ ⟨line, rfl⟩
  exact .super .done

theorem assign {value : Expr} (h : LexesAs (.assign name value) s) :
    LexesPhrase inside (.nodes [.assign name value]) (statementText s) := by
  refine Lexes.mono h ?_
  rintro _ ⟨source, line, rfl, hsays⟩
  exact .assign hsays .done

theorem loop {items : Expr} (hopen : LexesAs (.loop name items) s)
    (hbody : LexesPhrase inside (.nodes body) t) (hclose : LexesAs .endfor u) :
    LexesPhrase inside (.nodes [.loop name items body])
      (statementText s ++ (t ++ statementText u)) := by
  refine (Lexes.append hopen (Lexes.append hbody hclose)).mono ?_
  rintro _ ⟨_, _, ⟨_, _, rfl, hs⟩, ⟨ps, _, hps, ⟨_, _, rfl, hu⟩, rfl⟩, rfl⟩
  exact .loop hs hps hu .done

theorem block {required : Bool} (hopen : LexesAs (.block name required) s)
    (hbody : LexesPhrase true (.nodes body) t) (hclose : LexesAs (.endblock none) u) :
    LexesPhrase inside (.nodes [.block name required body])
      (statementText s ++ (t ++ statementText u)) := by
  refine (Lexes.append hopen (Lexes.append hbody hclose)).mono ?_
  rintro _ ⟨_, _, ⟨_, _, rfl, hs⟩, ⟨ps, _, hps, ⟨_, _, rfl, hu⟩, rfl⟩, rfl⟩
  exact .block hs hps (by simp) hu .done

theorem choice (hopen : LexesAs (.branch e) s) (hbody : LexesPhrase inside (.nodes body) t)
    (harms : LexesPhrase inside (.arms more other) u) :
    LexesPhrase inside (.nodes [.choice ((e, body) :: more) other])
      (statementText s ++ (t ++ u)) := by
  refine (Lexes.append hopen (Lexes.append hbody harms)).mono ?_
  rintro _ ⟨_, _, ⟨_, _, rfl, hs⟩, ⟨ps, qs, hps, hqs, rfl⟩, rfl⟩
  rw [List.singleton_append, ← List.append_nil qs]
  exact .choice hs hps hqs .done

theorem elif (hopen : LexesAs (.elif e) s) (hbody : LexesPhrase inside (.nodes body) t)
    (harms : LexesPhrase inside (.arms more other) u) :
    LexesPhrase inside (.arms ((e, body) :: more) other) (statementText s ++ (t ++ u)) := by
  refine (Lexes.append hopen (Lexes.append hbody harms)).mono ?_
  rintro _ ⟨_, _, ⟨_, _, rfl, hs⟩, ⟨ps, qs, hps, hqs, rfl⟩, rfl⟩
  rw [List.singleton_append]
  exact .elif hs hps hqs

theorem otherwise (hopen : LexesAs .otherwise s) (hbody : LexesPhrase inside (.nodes body) t)
    (hclose : LexesAs .endif u) :
    LexesPhrase inside (.arms [] body) (statementText s ++ (t ++ statementText u)) := by
  refine (Lexes.append hopen (Lexes.append hbody hclose)).mono ?_
  rintro _ ⟨_, _, ⟨_, _, rfl, hs⟩, ⟨ps, _, hps, ⟨_, _, rfl, hu⟩, rfl⟩, rfl⟩
  exact .otherwise hs hps hu

theorem endif (h : LexesAs .endif s) : LexesPhrase inside (.arms [] []) (statementText s) := by
  refine Lexes.mono h ?_
  rintro _ ⟨_, _, rfl, hs⟩
  exact .endif hs

end LexesPhrase

/-! ### Outlines -/

/-- The end of a choice, with a last body or without one. -/
theorem lexes_arms_nil {other : List Node} (h : LexesPhrase inside (.nodes other) s) :
    LexesPhrase inside (.arms [] other)
      ((if other.isEmpty then [] else statementText "else".toList ++ s) ++
        statementText "endif".toList) := by
  have hclose := lexesAs_keyword .endif .endif
  cases other with
  | nil => exact .endif hclose
  | cons n other =>
      rw [List.isEmpty_cons, if_neg Bool.false_ne_true, List.append_assoc]
      exact .otherwise (lexesAs_keyword .otherwise .otherwise) h hclose

mutual
/-- An element that can be written is cut into parts that say its node, if its slots are. -/
theorem lexes_inlineElement {slot : String → Node} (hwrite : Spells write) :
    ∀ e, elementIsWritable e → (inside = true ∨ elementCallsSuper e = false) →
    (∀ n ∈ elementSlots e, LexesPhrase inside (.nodes [slot n]) ((slot n).source write)) →
    LexesPhrase inside (.nodes [inlineElement slot e]) ((inlineElement slot e).source write)
  | .text s, h, _, _ => .text h.1 h.2
  | .output e, h, _, _ => .output h (hwrite e h.1)
  | .super, _, hsuper, _ => by
      rcases hsuper with rfl | hsuper
      · exact .super
      · cases hsuper
  | .choice [] _, h, _, _ => absurd rfl h.1
  | .choice ((condition, body) :: more) otherwise, h, hsuper, hslots => by
      obtain ⟨-, ⟨hcondition, hbody, hmore⟩, hotherwise⟩ := h
      have hsuper' := hsuper.imp_right fun h => Bool.or_eq_false_iff.mp h
      have hbranches := hsuper'.imp_right fun h => Bool.or_eq_false_iff.mp h.1
      have hin : LexesPhrase inside (.nodes (inlineElements slot body)) _ :=
        lexes_inlineElements hwrite body hbody (hbranches.imp_right And.left) fun n hn =>
          hslots n (List.mem_append_left _ (List.mem_append_left _ hn))
      have hend := lexes_inlineElements hwrite otherwise hotherwise (hsuper'.imp_right And.right) fun n hn =>
        hslots n (List.mem_append_right _ hn)
      have harms := lexes_inlineBranches hwrite (lexes_arms_nil hend) more hmore
        (hbranches.imp_right And.right) fun n hn =>
          hslots n (List.mem_append_left _ (List.mem_append_right _ hn))
      rw [← List.append_assoc] at harms
      exact .choice (lexesAs_branch hcondition (hwrite _ hcondition.1)) hin harms
  | .loop target items body, h, hsuper, hslots => by
      obtain ⟨htarget, hitems, hbody⟩ := h
      exact .loop (lexesAs_loop htarget hitems (hwrite items hitems.1))
        (lexes_inlineElements hwrite body hbody hsuper hslots) (lexesAs_keyword .endfor .endfor)
  | .assign name value, h, _, _ => .assign (lexesAs_assign h.1 h.2 (hwrite value h.2.1))
  | .slot name, _, _, hslots => hslots name (List.mem_singleton_self _)
theorem lexes_inlineElements {slot : String → Node} (hwrite : Spells write) :
    ∀ es, areWritable es → (inside = true ∨ callsSuper es = false) →
    (∀ n ∈ slots es, LexesPhrase inside (.nodes [slot n]) ((slot n).source write)) →
    LexesPhrase inside (.nodes (inlineElements slot es)) (Node.sources write (inlineElements slot es))
  | [], _, _, _ => .nil
  | e :: es, h, hsuper, hslots => by
      have hsuper' := hsuper.imp_right fun h => Bool.or_eq_false_iff.mp h
      exact .append
        (lexes_inlineElement hwrite e h.1 (hsuper'.imp_right And.left) fun n hn =>
          hslots n (List.mem_append_left _ hn))
        (lexes_inlineElements hwrite es h.2 (hsuper'.imp_right And.right) fun n hn =>
          hslots n (List.mem_append_right _ hn))
theorem lexes_inlineBranches {slot : String → Node} {other : List Node} {tail : List Char}
    (hwrite : Spells write) (htail : LexesPhrase inside (.arms [] other) tail) :
    ∀ bs, branchesAreWritable bs → (inside = true ∨ branchesCallSuper bs = false) →
    (∀ n ∈ branchSlots bs, LexesPhrase inside (.nodes [slot n]) ((slot n).source write)) →
    LexesPhrase inside (.arms (inlineBranches slot bs) other)
      (Node.branchSources write (inlineBranches slot bs) ++ tail)
  | [], _, _, _ => htail
  | (condition, body) :: rest, h, hsuper, hslots => by
      have hsuper' := hsuper.imp_right fun h => Bool.or_eq_false_iff.mp h
      have hin := lexes_inlineElements hwrite body h.2.1 (hsuper'.imp_right And.left) fun n hn =>
        hslots n (List.mem_append_left _ hn)
      have harms := lexes_inlineBranches hwrite htail rest h.2.2 (hsuper'.imp_right And.right) fun n hn =>
        hslots n (List.mem_append_right _ hn)
      rw [inlineBranches, Node.branchSources, List.append_assoc, List.append_assoc]
      exact .elif (lexesAs_elif h.1 (hwrite _ h.1.1)) hin harms
end

/-- A block is cut into parts that say its node, wherever it stands. -/
theorem lexes_blockNode {t : Template} (hwrite : Spells write)
    (hnames : ∀ b ∈ t.blocks, Text.isIdentifier b.name.toList = true)
    (hbodies : ∀ b ∈ t.blocks, areWritable b.body)
    (hslots : ∀ b ∈ t.blocks, ∀ n ∈ slots b.body, n ∈ t.blocks.map (·.name))
    {n : String} (hn : n ∈ t.blocks.map (·.name)) (active : List String) :
    LexesPhrase inside (.nodes [t.blockNode active n]) ((t.blockNode active n).source write) := by
  have hblock : ∀ {n inside required body}, n ∈ t.blocks.map (·.name) →
      LexesPhrase true (.nodes body) (Node.sources write body) →
      LexesPhrase inside (.nodes [.block n required body])
        ((Node.block n required body).source write) := by
    intro n inside required body hn hbody
    obtain ⟨b, hb, rfl⟩ := List.mem_map.mp hn
    exact .block (lexesAs_block (hnames b hb) required) hbody (lexesAs_keyword _ .endblock)
  fun_induction blockNode t active n generalizing inside with
  | case1 => exact hblock hn .nil
  | case2 => exact hblock hn .nil
  | case3 active n hactive b hb ih =>
      have hmem := List.mem_of_find?_eq_some hb
      refine hblock hn (lexes_inlineElements hwrite b.body (hbodies b hmem) (.inl rfl) ?_)
      exact fun m hm => ih m (hslots b hmem m hm)

end ClassScribe.Template
