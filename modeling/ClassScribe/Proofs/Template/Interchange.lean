import ClassScribe.Proofs.Expr.Separation
import ClassScribe.Proofs.Template.Openings
import ClassScribe.Proofs.Text.Words
import ClassScribe.Template.Respacing

/-! # White space in statements

A plain blank in a tag may stand for another one, unless the statement binds it: then the words of the tag stay
the same, and so do its expressions (`Statement.Written.interchange`). So rows of parts that differ in such
blanks say the same (`Sentence.interchange`). -/

namespace ClassScribe

/-! ### Trimming around a blank -/

namespace Text

variable {u v : List Char} {c : Char}

theorem trim_append_blank_left (hc : isBlank c = true) (hu : AllBlank u) (v : List Char) :
    trim (u ++ c :: v) = trim v := by
  have hl : AllBlank (u ++ [c]) := fun d hd => by
    rcases List.mem_append.mp hd with hd | hd
    · exact hu d hd
    · rwa [List.mem_singleton.mp hd]
  have htrim := trim_pad hl (List.forall_mem_nil _) v
  rwa [List.append_nil, List.append_assoc] at htrim

theorem trim_append_blank_right (hc : isBlank c = true) (u : List Char) (hv : AllBlank v) :
    trim (u ++ c :: v) = trim u :=
  trim_pad (List.forall_mem_nil _) (List.forall_mem_cons.mpr ⟨hc, hv⟩) u

theorem trim_append_blank_between (hu : ¬AllBlank u) (hv : ¬AllBlank v) :
    trim (u ++ c :: v) = trimStart u ++ c :: trimEnd v := trim_append_between hu hv [c]

theorem isBlank_of_isPlainBlank (h : isPlainBlank c = true) : isBlank c = true :=
  Token.isBlank_of_isAsciiBlank (isAsciiBlank_of_isPlainBlank h)

theorem quoteBehind_allBlank_append (hu : AllBlank u) (v : List Char) :
    quoteBehind none (u ++ v) = quoteBehind none v :=
  quoteBehind_append (fun c hc => isQuote_of_isBlank (hu c hc)) v

theorem quoteBehind_word_append (hu : isIdentifier u = true) (v : List Char) :
    quoteBehind none (u ++ v) = quoteBehind none v := by
  refine quoteBehind_append (fun c hc => ?_) v
  obtain ⟨-, -, hdouble, hsingle⟩ := isIdentPart_spec (isIdentPart_of_mem hu hc)
  simp [isQuote, hdouble, hsingle]

theorem noBlank_of_all (h : (u.all fun c => !isBlank c) = true) : NoBlank u := fun c hc => by
  simpa using List.all_eq_true.mp h c hc

theorem exists_behind_noBlank {w rest : List Char} (hw : NoBlank w) (hc : isBlank c = true)
    (h : w ++ rest = u ++ c :: v) : ∃ l, u = w ++ l ∧ rest = l ++ c :: v := by
  obtain ⟨r, hr⟩ | hbehind := Template.Piece.append_eq_append_cons h
  · exact absurd (hw c (hr ▸ by simp)) (by simp [hc])
  · exact hbehind

theorem append_eq_append_char {s rest : List Char} (h : s ++ rest = u ++ c :: v) :
    (∃ r, s = u ++ c :: r ∧ v = r ++ rest) ∨ ∃ l, u = s ++ l ∧ rest = l ++ c :: v := by
  obtain ⟨r, hr⟩ | hbehind := Template.Piece.append_eq_append_cons h
  · refine .inl ⟨r, hr, ?_⟩
    rw [hr, List.append_assoc, List.cons_append] at h
    exact (List.cons.inj (List.append_cancel_left h)).2.symm
  · exact .inr hbehind

/-- A blank in a text that starts with a word stands in the white space behind the word, or behind that. -/
theorem append_eq_append_blank {w blank rest : List Char} (hw : NoBlank w) (hc : isBlank c = true)
    (h : w ++ blank ++ rest = u ++ c :: v) :
    (∃ l r, u = w ++ l ∧ blank = l ++ c :: r ∧ v = r ++ rest) ∨
      ∃ l, u = w ++ blank ++ l ∧ rest = l ++ c :: v := by
  rw [List.append_assoc] at h
  obtain ⟨l, rfl, hl⟩ := exists_behind_noBlank hw hc h
  obtain ⟨r, hblank, hv⟩ | ⟨k, rfl, hk⟩ := append_eq_append_char hl
  · exact .inl ⟨l, r, rfl, hblank, hv⟩
  · exact .inr ⟨k, (List.append_assoc ..).symm, hk⟩

theorem allBlank_interchange {d : Char} (hd : isBlank d = true) (h : AllBlank (u ++ c :: v)) :
    AllBlank (u ++ d :: v) := by
  obtain ⟨hu, hcv⟩ := List.forall_mem_append.mp h
  exact List.forall_mem_append.mpr ⟨hu, List.forall_mem_cons.mpr ⟨hd, (List.forall_mem_cons.mp hcv).2⟩⟩

end Text

namespace Template

/-! ### Texts of tags -/

/-- Two texts that are the same, but that one may have a plain blank where the other one has another: outside
of string literals, before a word, and where this may be done. -/
inductive Interchanged (free : List Char → List Char → Prop) : List Char → List Char → Prop
  | refl (s : List Char) : Interchanged free s s
  | blank {u v : List Char} {c d : Char} :
      Text.quoteBehind none u = none → Text.isPlainBlank c = true → Text.isPlainBlank d = true →
      (∃ x ∈ v.getLast?, Text.isBlank x = false) → free u v →
      Interchanged free (u ++ c :: v) (u ++ d :: v)

section
variable {free : List Char → List Char → Prop} {s s' t u v : List Char} {c d : Char} {e : Expr}
  {st : Statement} {passed : List (List Char)}

theorem Interchanged.symm (h : Interchanged free s s') : Interchanged free s' s := by
  cases h with
  | refl s => exact .refl s
  | blank hu hc hd hv hfree => exact .blank hu hd hc hv hfree

theorem Interchanged.mono {free' : List Char → List Char → Prop} (h : Interchanged free s s')
    (hfree : ∀ u v, free u v → free' u v) : Interchanged free' s s' := by
  cases h with
  | refl s => exact .refl s
  | blank hu hc hd hv h => exact .blank hu hc hd hv (hfree _ _ h)

theorem Interchanged.words_eq (h : Interchanged free s s') : Text.words s = Text.words s' := by
  cases h with
  | refl => rfl
  | blank _ hc hd =>
      rw [Text.words_append_blank (Text.isBlank_of_isPlainBlank hc),
        Text.words_append_blank (Text.isBlank_of_isPlainBlank hd)]

theorem Expresses.interchange (h : Interchanged free s s') (he : Expresses s e) : Expresses s' e := by
  have htokens : Token.tokenize s = Token.tokenize s' := by
    cases h with
    | refl => rfl
    | blank hu hc hd =>
        rw [Token.tokenize_append_blank hu (Text.isAsciiBlank_of_isPlainBlank hc),
          Token.tokenize_append_blank hu (Text.isAsciiBlank_of_isPlainBlank hd)]
  refine ⟨?_, he.2⟩
  have hparse := he.1
  unfold Expr.parse at hparse ⊢
  rw [← htokens]
  split at hparse
  · cases hparse
  · dsimp only
    split at hparse
    · cases hparse
    · exact hparse
    · cases hparse

/-! ### Statements -/

theorem eq_of_spacedIn (hc : Text.isBlank c = true) (h : " in ".toList = u ++ c :: v) :
    u = [] ∨ u = " in".toList := by
  match u with
  | [] => exact .inl rfl
  | [_] | [_, _] =>
      cases h
      exact absurd hc (by decide)
  | [_, _, _] =>
      cases h
      exact .inr rfl
  | _ :: _ :: _ :: _ :: u => simp at h

/-- A loop binds the white space around its `in`. -/
theorem Statement.binds_of_spacedIn {target blank l r source : List Char}
    (htarget : Text.isIdentifier target = true) (hblank : Text.AllBlank blank) (hc : Text.isBlank c = true)
    (hv : ∃ x ∈ v.getLast?, Text.isBlank x = false) (ht : target ++ blank ++ l <:+ t)
    (hwords : Text.words t = "for".toList :: Text.words (target ++ blank ++ l))
    (hl : " in ".toList ++ source = l ++ c :: v) (hspaced : " in ".toList = l ++ c :: r) : Binds t v := by
  obtain ⟨x, hx, hxblank⟩ := hv
  have htargetWords : Text.words (target ++ blank) = [target] := by
    rw [Text.words_append_allBlank _ hblank,
      Text.words_of_noBlank (Text.noBlank_of_isIdentifier htarget) (Text.ne_nil_of_isIdentifier htarget)]
  rcases eq_of_spacedIn hc hspaced with rfl | rfl
  · have hbehind : v = "in".toList ++ ' ' :: source := (List.cons.inj hl).2.symm
    have hsource : Text.words (' ' :: source) ≠ [] := by
      rw [hbehind, List.getLast?_append_cons] at hx
      exact Text.words_ne_nil ⟨x, List.mem_of_getLast? hx, hxblank⟩
    rw [Text.words_cons_blank (by decide)] at hsource
    obtain ⟨item, more, hitem⟩ := List.exists_cons_of_ne_nil hsource
    have hbehindWords : Text.words v = "in".toList :: item :: more := by
      rw [hbehind, Text.words_append (Text.noBlank_of_isIdentifier (by decide)) (by decide) (by decide), hitem]
    rw [List.append_nil, htargetWords] at hwords
    exact .beforeIn htarget hwords hbehindWords ⟨source, hbehind.symm⟩
  · have hinWords : Text.words (target ++ blank ++ " in".toList) = [target, "in".toList] := by
      show Text.words (target ++ blank ++ ' ' :: "in".toList) = _
      rw [Text.words_append_blank (by decide), htargetWords]
      rfl
    rw [hinWords] at hwords
    exact .behindIn htarget hwords ((List.suffix_append _ _).trans ht)
      (Text.words_ne_nil ⟨x, List.mem_of_getLast? hx, hxblank⟩)

/-- What follows the keyword of a statement, with another blank in it. The text `t` is the statement up to the
blank, and `u` is what follows the keyword there. -/
theorem Statement.Argument.interchange (hu : Text.quoteBehind none u = none) (hc : Text.isPlainBlank c = true)
    (hd : Text.isPlainBlank d = true) (hv : ∃ x ∈ v.getLast?, Text.isBlank x = false) (ht : u <:+ t)
    (hwords : Text.words t = st.keyword.toList :: Text.words u) (hne : Text.words u ≠ [])
    (hfree : ¬Binds t v) (hlabel : ∀ l, st = .endblock (some l) → Text.isIdentifier l.toList = true)
    (h : st.Argument (u ++ c :: v) passed) : ∃ passed', st.Argument (u ++ d :: v) passed' := by
  have hc' := Text.isBlank_of_isPlainBlank hc
  have hd' := Text.isBlank_of_isPlainBlank hd
  have hinterchanged {l : List Char} (hl : Text.quoteBehind none l = none) :
      Interchanged (fun _ _ => True) (l ++ c :: v) (l ++ d :: v) := .blank hl hc hd hv trivial
  have hall := (hinterchanged hu).words_eq
  generalize hs : u ++ c :: v = s at h hall
  cases h with
  | parent =>
      obtain ⟨word, more, hu'⟩ := List.exists_cons_of_ne_nil hne
      obtain ⟨x, hx, hblank⟩ := hv
      exact absurd (.parent (hu' ▸ hwords) (Text.words_ne_nil ⟨x, List.mem_of_getLast? hx, hblank⟩)) hfree
  | block hname hs' => exact ⟨_, .block hname (hall ▸ hs')⟩
  | required hname hs' => exact ⟨_, .required hname (hall ▸ hs')⟩
  | endblock => simp at hs
  | @endblockName name =>
      have hblank := Text.noBlank_of_isIdentifier (hlabel name rfl) c (hs ▸ by simp)
      rw [hc'] at hblank
      cases hblank
  | @loop target items blank source htarget hblank hsource =>
      have hword := Text.noBlank_of_isIdentifier htarget
      obtain ⟨l, r, rfl, rfl, rfl⟩ | ⟨l, rfl, hl⟩ := Text.append_eq_append_blank hword hc' hs.symm
      · have hloop : (Statement.loop target items).Argument _ [] :=
          .loop htarget (Text.allBlank_interchange hd' hblank) hsource
        exact ⟨[], by simpa using hloop⟩
      obtain ⟨r, hspaced⟩ | ⟨r, rfl, rfl⟩ := Piece.append_eq_append_cons hl
      · exact absurd (binds_of_spacedIn htarget hblank hc' hv ht hwords hl hspaced) hfree
      · have hquote : Text.quoteBehind none r = none := by
          rwa [List.append_assoc, Text.quoteBehind_word_append htarget,
            Text.quoteBehind_allBlank_append hblank] at hu
        have hloop : (Statement.loop target items).Argument _ [] :=
          .loop htarget hblank (hsource.interchange (hinterchanged hquote))
        exact ⟨[], by simpa using hloop⟩
  | endfor => exact ⟨_, .endfor⟩
  | branch he =>
      rw [← hs] at he
      exact ⟨_, .branch (he.interchange (hinterchanged hu))⟩
  | elif he =>
      rw [← hs] at he
      exact ⟨_, .elif (he.interchange (hinterchanged hu))⟩
  | otherwise => exact ⟨_, .otherwise⟩
  | endif => exact ⟨_, .endif⟩
  | @assign name value blank source hname hblank hsource =>
      have hword := Text.noBlank_of_isIdentifier hname
      obtain ⟨l, r, rfl, rfl, rfl⟩ | ⟨l, rfl, hl⟩ := Text.append_eq_append_blank hword hc' hs.symm
      · have hassign : (Statement.assign name value).Argument _ [] :=
          .assign hname (Text.allBlank_interchange hd' hblank) hsource
        exact ⟨[], by simpa using hassign⟩
      cases l with
      | nil =>
          obtain ⟨rfl, -⟩ := List.cons.inj hl
          exact absurd hc' (by decide)
      | cons x r =>
          obtain ⟨rfl, rfl⟩ := List.cons.inj hl
          have hquote : Text.quoteBehind none r = none := by
            rwa [List.append_assoc, Text.quoteBehind_word_append hname,
              Text.quoteBehind_allBlank_append hblank] at hu
          have hassign : (Statement.assign name value).Argument _ [] :=
            .assign hname hblank (hsource.interchange (hinterchanged hquote))
          exact ⟨[], by simpa using hassign⟩

/-- A statement with another blank in it is the same one, unless it binds the blank. -/
theorem Statement.Written.interchange (hs : Interchanged (fun u v => ¬Binds u v) s s')
    (hlabel : ∀ l, st = .endblock (some l) → Text.isIdentifier l.toList = true)
    (h : st.Written (fun _ => True) s) : st.Written (fun _ => True) s' := by
  cases hs with
  | refl => exact h
  | @blank u v c d hu hc hd hv hfree =>
      obtain ⟨passed, ⟨tail, hsource, htail, harg⟩, -⟩ := h
      have hkeyword := st.isIdentifier_keyword
      have hc' := Text.isBlank_of_isPlainBlank hc
      have hd' := Text.isBlank_of_isPlainBlank hd
      obtain ⟨l, rfl, rfl⟩ :=
        Text.exists_behind_noBlank (Text.noBlank_of_isIdentifier hkeyword) hc' hsource.symm
      have hends : Text.EndsWord (l ++ d :: v) := by
        cases l with
        | nil =>
            rintro _ ⟨⟩
            exact hd'
        | cons b l => exact htail
      suffices h : ∃ passed', st.Argument (Text.trim (l ++ d :: v)) passed' by
        obtain ⟨passed', harg'⟩ := h
        exact ⟨passed', ⟨_, List.append_assoc .., hends, harg'⟩, trivial⟩
      by_cases hl : Text.AllBlank l
      · rw [Text.trim_append_blank_left hc' hl] at harg
        rw [Text.trim_append_blank_left hd' hl]
        exact ⟨passed, harg⟩
      · obtain ⟨x, hx, hblank⟩ := hv
        have hv' : ¬Text.AllBlank v := fun h =>
          Text.words_ne_nil ⟨x, List.mem_of_getLast? hx, hblank⟩ (Text.words_eq_nil_iff.mpr h)
        have hend : Text.trimEnd v = v := Text.trimEnd_of_getLast fun y hy => by
          cases (Option.mem_def.mp hx).symm.trans hy
          exact hblank
        have hwords : Text.words (st.keyword.toList ++ l) =
            st.keyword.toList :: Text.words (Text.trimStart l) := by
          rw [Text.words_trimStart]
          cases l with
          | nil => exact absurd (List.forall_mem_nil _) hl
          | cons b l =>
              have hb : Text.isBlank b = true := htail b rfl
              rw [Text.words_append (Text.noBlank_of_isIdentifier hkeyword)
                (Text.ne_nil_of_isIdentifier hkeyword) hb, Text.words_cons_blank hb]
        obtain ⟨b, hb, hstart⟩ := Text.exists_trimStart l
        have hquote : Text.quoteBehind none (Text.trimStart l) = none := by
          rwa [Text.quoteBehind_word_append hkeyword, hstart, Text.quoteBehind_allBlank_append hb] at hu
        rw [Text.trim_append_blank_between hl hv', hend] at harg ⊢
        refine harg.interchange hquote hc hd ⟨x, hx, hblank⟩ ?_ hwords ?_ hfree hlabel
        · exact (List.dropWhile_suffix _).trans (List.suffix_append _ _)
        · rw [Text.words_trimStart]
          exact fun hnil => hl (Text.words_eq_nil_iff.mp hnil)

end

theorem Statement.Written.isIdentifier_block {allowed : List (List Char) → Prop} {name : String}
    {required : Bool} {source : List Char} (h : (block name required).Written allowed source) :
    Text.isIdentifier name.toList = true := by
  obtain ⟨passed, ⟨tail, -, -, harg⟩, -⟩ := h
  generalize Text.trim tail = s at harg
  cases harg with
  | block hname => exact hname
  | required hname => exact hname

/-! ### Rows of parts -/

/-- Parts that are the same but for their lines, and for a plain blank that may be interchanged. -/
inductive Part.Respaced : Part → Part → Prop
  | text (s : List Char) : Respaced (.text s) (.text s)
  | output {s s' : List Char} {line line' : Nat} :
      Interchanged (fun _ _ => True) s s' → Respaced (.output s line) (.output s' line')
  | statement {s s' : List Char} {line line' : Nat} :
      Interchanged (fun u v => ¬Statement.Binds u v) s s' →
      Respaced (.statement s line) (.statement s' line')

section
variable {ps ps' qs rs : List Part}

theorem Part.Respaced.symm {part part' : Part} (h : part.Respaced part') : part'.Respaced part := by
  cases h with
  | text s => exact .text s
  | output hs => exact .output hs.symm
  | statement hs => exact .statement hs.symm

theorem exists_of_forall₂_append {α β : Type} {R : α → β → Prop} {as bs : List α} {cs : List β}
    (h : List.Forall₂ R (as ++ bs) cs) :
    ∃ as' bs', cs = as' ++ bs' ∧ List.Forall₂ R as as' ∧ List.Forall₂ R bs bs' := by
  induction as generalizing cs with
  | nil => exact ⟨[], cs, rfl, .nil, h⟩
  | cons a as ih =>
      obtain ⟨c, cs, hc, hcs, rfl⟩ := List.forall₂_cons_left_iff.mp h
      obtain ⟨as', bs', rfl, has, hbs⟩ := ih hcs
      exact ⟨c :: as', bs', rfl, .cons hc has, hbs⟩

theorem Interchanged.eq_of_noBlank {free : List Char → List Char → Prop} {s s' : List Char}
    (h : Interchanged free s s') (hs : Text.NoBlank s) : s' = s := by
  cases h with
  | refl => rfl
  | blank _ hc =>
      have := hs _ (List.mem_append_right _ List.mem_cons_self)
      rw [Text.isBlank_of_isPlainBlank hc] at this
      cases this

theorem exists_statement {source : List Char} {line : Nat}
    (h : List.Forall₂ Part.Respaced (.statement source line :: ps) qs) :
    ∃ source' line' ps', qs = .statement source' line' :: ps' ∧
      Interchanged (fun u v => ¬Statement.Binds u v) source source' ∧
      List.Forall₂ Part.Respaced ps ps' := by
  obtain ⟨part, ps', hpart, hps, rfl⟩ := List.forall₂_cons_left_iff.mp h
  cases hpart with
  | statement hs => exact ⟨_, _, ps', rfl, hs, hps⟩

theorem exists_output {source : List Char} {line : Nat}
    (h : List.Forall₂ Part.Respaced (.output source line :: ps) qs) :
    ∃ source' line' ps', qs = .output source' line' :: ps' ∧
      Interchanged (fun _ _ => True) source source' ∧ List.Forall₂ Part.Respaced ps ps' := by
  obtain ⟨part, ps', hpart, hps, rfl⟩ := List.forall₂_cons_left_iff.mp h
  cases hpart with
  | output hs => exact ⟨_, _, ps', rfl, hs, hps⟩

/-- Rows that differ in blanks that may be interchanged say the same phrases. -/
theorem Phrase.Says.interchange {inside : Bool} {phrase : Phrase}
    (h : Phrase.Says (fun _ => True) inside phrase ps) (hps : List.Forall₂ Part.Respaced ps qs) :
    Phrase.Says (fun _ => True) inside phrase qs := by
  have hsuper : Text.NoBlank "super()".toList := Text.noBlank_of_all (by decide)
  induction h generalizing qs with
  | done => exact List.forall₂_nil_left_iff.mp hps ▸ .done
  | text _ ih =>
      obtain ⟨_, _, hpart, hrest, rfl⟩ := List.forall₂_cons_left_iff.mp hps
      cases hpart
      exact .text (ih hrest)
  | output hne he _ ih =>
      obtain ⟨source', _, _, rfl, hs, hrest⟩ := exists_output hps
      refine .output (fun h => hne ?_) (he.interchange hs) (ih hrest)
      exact (hs.symm.eq_of_noBlank (h ▸ hsuper)).trans h
  | super _ ih =>
      obtain ⟨_, _, _, rfl, hs, hrest⟩ := exists_output hps
      rw [hs.eq_of_noBlank hsuper]
      exact .super (ih hrest)
  | assign hw _ ih =>
      obtain ⟨_, _, _, rfl, hs, hrest⟩ := exists_statement hps
      exact .assign (hw.interchange hs nofun) (ih hrest)
  | loop hopen _ hclose _ ihbody ih =>
      obtain ⟨_, _, _, rfl, hs, hrest⟩ := exists_statement hps
      obtain ⟨_, _, rfl, hinner, hrest⟩ := exists_of_forall₂_append hrest
      obtain ⟨_, _, _, rfl, hs', hrest⟩ := exists_statement hrest
      exact .loop (hopen.interchange hs nofun) (ihbody hinner) (hclose.interchange hs' nofun) (ih hrest)
  | block hopen _ hlabel hclose _ ihbody ih =>
      obtain ⟨_, _, _, rfl, hs, hrest⟩ := exists_statement hps
      obtain ⟨_, _, rfl, hinner, hrest⟩ := exists_of_forall₂_append hrest
      obtain ⟨_, _, _, rfl, hs', hrest⟩ := exists_statement hrest
      refine .block (hopen.interchange hs nofun) (ihbody hinner) hlabel (hclose.interchange hs' ?_) (ih hrest)
      rintro l ⟨⟩
      rw [hlabel l rfl]
      exact hopen.isIdentifier_block
  | choice hopen _ _ _ ihbody ihtail ih =>
      obtain ⟨_, _, _, rfl, hs, hrest⟩ := exists_statement hps
      obtain ⟨_, _, rfl, hinner, hrest⟩ := exists_of_forall₂_append hrest
      obtain ⟨_, _, rfl, htail, hrest⟩ := exists_of_forall₂_append hrest
      exact .choice (hopen.interchange hs nofun) (ihbody hinner) (ihtail htail) (ih hrest)
  | elif hopen _ _ ihbody ihtail =>
      obtain ⟨_, _, _, rfl, hs, hrest⟩ := exists_statement hps
      obtain ⟨_, _, rfl, hinner, htail⟩ := exists_of_forall₂_append hrest
      exact .elif (hopen.interchange hs nofun) (ihbody hinner) (ihtail htail)
  | otherwise hopen _ hclose ihbody =>
      obtain ⟨_, _, _, rfl, hs, hrest⟩ := exists_statement hps
      obtain ⟨_, _, rfl, hinner, hrest⟩ := exists_of_forall₂_append hrest
      obtain ⟨_, _, _, rfl, hs', hrest⟩ := exists_statement hrest
      cases hrest
      exact .otherwise (hopen.interchange hs nofun) (ihbody hinner) (hclose.interchange hs' nofun)
  | endif hw =>
      obtain ⟨_, _, _, rfl, hs, hrest⟩ := exists_statement hps
      cases hrest
      exact .endif (hw.interchange hs nofun)

/-- Rows that differ in blanks that may be interchanged say the same templates. -/
theorem Sentence.interchange {parent : Option String} {ns : List Node}
    (h : Sentence (fun _ => True) parent ns ps) (hps : List.Forall₂ Part.Respaced ps qs) :
    Sentence (fun _ => True) parent ns qs := by
  cases h with
  | root h => exact .root (h.interchange hps)
  | child h hw h' =>
      obtain ⟨_, _, rfl, habove, hrest⟩ := exists_of_forall₂_append hps
      obtain ⟨_, _, _, rfl, hs, hbelow⟩ := exists_statement hrest
      exact .child (h.interchange habove) (hw.interchange hs nofun) (h'.interchange hbelow)

end

end Template
end ClassScribe
