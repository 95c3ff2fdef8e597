import ClassScribe.Proofs.Template.Reading

/-! # The accepted contents

The parser accepts the contents that are sentences of the grammar (`parse_reads_sentences`). The words that
the grammar passes over make it accept more than a strict grammar does. -/

namespace ClassScribe.Template

open Progress

variable {options : Spacing} {p q : Progress} {source : List Char} {line : Nat} {ps : List Part}

theorem mem_applyFrom {tag : Tag} (hkind : tag.kind = .statement) {previous : Option Tag}
    {pieces : List Piece} (h : .tag tag ∈ pieces) :
    Part.statement tag.inner tag.line ∈ options.applyFrom previous pieces := by
  induction pieces generalizing previous with
  | nil => cases h
  | cons piece rest ih =>
      cases piece with
      | text s =>
          rcases List.mem_cons.mp h with h | h
          · cases h
          · exact List.mem_append_right _ (ih h)
      | tag other =>
          rcases List.mem_cons.mp h with h | h
          · cases h
            refine List.mem_append_left _ ?_
            rw [Spacing.tagParts, hkind]
            exact List.mem_cons_self
          · exact List.mem_append_right _ (ih h)

theorem exists_step_of_mem (hrun : p.run ps = .ok q) {part : Part} (hpart : part ∈ ps) :
    ∃ p' q' : Progress, p'.step part = .ok q' := by
  induction ps generalizing p with
  | nil => cases hpart
  | cons first rest ih =>
      obtain ⟨p', hstep, hrun⟩ := bind_eq_ok.mp hrun
      rcases List.mem_cons.mp hpart with rfl | hpart
      · exact ⟨p, p', hstep⟩
      · exact ih hrun hpart

/-- The words that are passed over are all of them behind three keywords, and the ones behind `required`
in the opening of a block. -/
theorem Statement.Argument.passed_eq {st : Statement} {s : List Char} {passed : List (List Char)}
    (h : st.Argument s passed) :
    passed = [] ∨ st.passesOver = true ∧
      (st.keyword ∈ ["endfor", "else", "endif"] ∧ passed = Text.words s ∨
        st.keyword = "block" ∧ passed = (Text.words s).drop 2) := by
  cases h with
  | required _ hwords => exact .inr ⟨rfl, .inr ⟨rfl, by rw [hwords]; rfl⟩⟩
  | endfor => exact .inr ⟨rfl, .inl ⟨by decide, rfl⟩⟩
  | otherwise => exact .inr ⟨rfl, .inl ⟨by decide, rfl⟩⟩
  | endif => exact .inr ⟨rfl, .inl ⟨by decide, rfl⟩⟩
  | _ => exact .inl rfl

theorem permits_of_words
    (hends : ∀ w ∈ ["endfor", "else", "endif"], Part.keyword source = w.toList →
      Text.words (Part.argument source) = [])
    (hblock : Part.keyword source = "block".toList →
      (Text.words (Part.argument source)).drop 2 = []) :
    Part.Permits (· = []) (.statement source line) := by
  intro st passed h
  obtain ⟨hword, harg⟩ := Statement.says_iff.mp h
  rcases harg.passed_eq with hnil | ⟨_, ⟨hend, hpassed⟩ | ⟨hkey, hpassed⟩⟩
  · exact hnil
  · rw [hpassed, hends st.keyword hend hword]
  · rw [hpassed, hblock (by rw [hword, hkey])]

/-- The parser takes the contents that are sentences of the grammar, with the template that the sentence
says, and rejects any other one as wrong syntax. A sentence is made up of statements as a whole, except
for the words behind `else`, `endif`, `endfor` and `required`, which are passed over; if there are none,
a content is taken just if it is a sentence that passes over nothing. -/
theorem parse_reads_sentences (options : Spacing) (name content : String) :
    (∀ t, parse options name content = .ok t ↔
      ∃ pieces parent ns, Piece.cut content.toList = .ok pieces ∧
        Sentence (fun _ => True) parent ns (options.apply pieces) ∧ Distinct (Node.blocksOf ns) ∧
        t = ofOutline name parent ns) ∧
    (∀ e, parse options name content = .error e → ∃ line fault, e = .invalidSyntax name line fault) ∧
    (∀ t pieces tag, parse options name content = .ok t → Piece.cut content.toList = .ok pieces →
      .tag tag ∈ pieces → tag.kind = .statement →
      ∃ st passed, Statement.Says st tag.inner passed ∧ (passed = [] ∨ st.passesOver = true)) ∧
    (∀ pieces, Piece.cut content.toList = .ok pieces →
      (∀ part ∈ options.apply pieces, part.Permits (· = [])) →
      ∀ t, parse options name content = .ok t ↔
        ∃ parent ns, Sentence (· = []) parent ns (options.apply pieces) ∧
          Distinct (Node.blocksOf ns) ∧ t = ofOutline name parent ns) := by
  refine ⟨fun t => parse_eq_ok_iff_sentence, fun e h => ?_, fun t pieces tag h hcut hmem hkind => ?_,
    fun pieces hcut hparts t => parse_eq_ok_iff hcut hparts⟩
  · unfold parse at h
    split at h
    · next line fault _ =>
        cases h
        exact ⟨line, fault, rfl⟩
    · cases h
  · obtain ⟨_, parent, ns, hpieces, hsentence, hd, -⟩ := parse_eq_ok_iff_sentence.mp h
    obtain rfl := Except.ok.inj (hcut.symm.trans hpieces)
    obtain ⟨p, q, hstep⟩ :=
      exists_step_of_mem (hsentence.run hd) (@mem_applyFrom options _ hkind none _ hmem)
    obtain ⟨st, passed, hsays, -⟩ := step_statement_iff.mp hstep
    obtain ⟨tail, -, -, harg⟩ := id hsays
    exact ⟨st, passed, hsays, harg.passed_eq.imp_right And.left⟩

/-- No statement of a loop over `xs` passes over a word. -/
theorem parse_reads_sentences_loop :
    (∀ t, parse .standard "rows" "\x7b% for x in xs %\x7d\x7b\x7b x \x7d\x7d\x7b% endfor %\x7d" = .ok t ↔
      ∃ parent ns, Sentence (· = []) parent ns
          [.statement "for x in xs".toList 1, .output "x".toList 1, .statement "endfor".toList 1] ∧
        Distinct (Node.blocksOf ns) ∧ t = ofOutline "rows" parent ns) := by
  have hcut : Piece.cut "\x7b% for x in xs %\x7d\x7b\x7b x \x7d\x7d\x7b% endfor %\x7d".toList =
      .ok [.tag ⟨.statement, "for x in xs".toList, 1, .plain, .plain⟩,
        .tag ⟨.output, "x".toList, 1, .plain, .plain⟩,
        .tag ⟨.statement, "endfor".toList, 1, .plain, .plain⟩] := by
    refine @Piece.cut_of_cutWithin 4 _ _ ?_
    decide +kernel
  refine (parse_reads_sentences .standard "rows" _).2.2.2 _ hcut ?_
  intro part hpart
  rcases List.mem_cons.mp hpart with rfl | hpart
  · exact permits_of_words (by decide +kernel) (by decide +kernel)
  rcases List.mem_cons.mp hpart with rfl | hpart
  · trivial
  · rw [List.mem_singleton.mp hpart]
    exact permits_of_words (by decide +kernel) (by decide +kernel)

/-- A condition behind `else` is passed over: the template is taken as if it were not there. -/
theorem parse_passes_over_condition :
    ∃ t pieces tag,
      parse .standard "test" "\x7b% if a %\x7dx\x7b% else b %\x7dy\x7b% endif %\x7d" = .ok t ∧
      Piece.cut "\x7b% if a %\x7dx\x7b% else b %\x7dy\x7b% endif %\x7d".toList = .ok pieces ∧
      .tag tag ∈ pieces ∧ tag.kind = .statement ∧ tag.inner = "else b".toList ∧
      ¬∃ st, Statement.Says st tag.inner [] := by
  let outline : List Node := [.choice [(.var "a", [.text "x"])] [.text "y"]]
  have hparse : parse .standard "test" "\x7b% if a %\x7dx\x7b% else b %\x7dy\x7b% endif %\x7d" =
      .ok (ofOutline "test" none outline) :=
    parse_of_saysOutline (show saysOutline .standard none outline 4 _ = true by decide +kernel)
  have hcut : Piece.cut "\x7b% if a %\x7dx\x7b% else b %\x7dy\x7b% endif %\x7d".toList =
      .ok [.tag ⟨.statement, "if a".toList, 1, .plain, .plain⟩, .text ['x'],
        .tag ⟨.statement, "else b".toList, 1, .plain, .plain⟩, .text ['y'],
        .tag ⟨.statement, "endif".toList, 1, .plain, .plain⟩] := by
    refine @Piece.cut_of_cutWithin 4 _ _ ?_
    decide +kernel
  refine ⟨_, _, ⟨.statement, "else b".toList, 1, .plain, .plain⟩, hparse, hcut, by simp, rfl, rfl, ?_⟩
  rintro ⟨st, hsays⟩
  obtain ⟨hword, harg⟩ := Statement.says_iff.mp hsays
  rw [show Part.keyword "else b".toList = "else".toList by decide +kernel] at hword
  cases st with
  | otherwise =>
      generalize hpassed : ([] : List (List Char)) = passed at harg
      cases harg with
      | otherwise => exact absurd hpassed (by decide +kernel)
  | _ => exact absurd hword (by simp [Statement.keyword])

end ClassScribe.Template
