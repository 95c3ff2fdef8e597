import ClassScribe.Proofs.Template.Division
import ClassScribe.Proofs.Template.Indentation
import ClassScribe.Proofs.Template.Reading
import ClassScribe.Proofs.Template.Spacing
import ClassScribe.Template.CommentLine

/-! # Lines of comments disappear

A comment on a line of its own leaves the two texts around it as they would be left without it, in two pieces
instead of one (`cut_comment`); and this makes no difference for any template that is composed with such a
source (`commentLine_disappears`). -/

namespace ClassScribe.Template

namespace Spacing

/-! ### Lines of tags -/

section
variable {options : Spacing} {t t' : Tag} {previous previous' : Option Tag} {ps qs : List Piece}

/-- Two tags, or none, that are the same but for their lines. -/
def SameTag : Option Tag → Option Tag → Prop := Option.Rel fun t t' => Piece.SameButLine (.tag t) (.tag t')

theorem sameTag_leadTag? (h : List.Forall₂ Piece.SameButLine ps qs) :
    SameTag (leadTag? ps) (leadTag? qs) := by
  cases h with
  | nil => exact .none
  | cons hp _ =>
      cases hp with
      | text s => exact .none
      | tag => exact .some (.tag ..)

/-- Two tags, or none, that are the same on their sides. -/
def SameSides : Option Tag → Option Tag → Prop :=
  Option.Rel fun t t' => t'.kind = t.kind ∧ t'.left = t.left ∧ t'.right = t.right

theorem SameTag.sameSides (h : SameTag previous previous') : SameSides previous previous' := by
  cases h with
  | none => exact .none
  | some h =>
      cases h
      exact .some ⟨rfl, rfl, rfl⟩

theorem between_of_sameSides {next next' : Option Tag} (hp : SameSides previous previous')
    (hn : SameSides next next') (s : List Char) :
    between options previous next s = between options previous' next' s := by
  have hnext (atLineStart : Bool) (u : List Char) :
      upTo options next atLineStart u = upTo options next' atLineStart u := by
    cases hn with
    | none => rfl
    | @some t t' h =>
        show before options t atLineStart u = before options t' atLineStart u
        unfold before
        rw [h.1, h.2.1]
  cases hp with
  | none => exact hnext true s
  | @some t t' h =>
      have hafter : after options t s = after options t' s := by
        unfold after
        rw [h.1, h.2.2]
      rw [between_some, between_some, hafter]
      exact hnext _ _

theorem between_of_sameTag {next next' : Option Tag} (hp : SameTag previous previous')
    (hn : SameTag next next') (s : List Char) :
    between options previous next s = between options previous' next' s :=
  between_of_sameSides hp.sameSides hn.sameSides s

theorem applyFrom_of_sameButLines (h : List.Forall₂ Piece.SameButLine ps qs)
    (hp : SameTag previous previous') :
    SameParts (applyFrom options previous ps) (applyFrom options previous' qs) := by
  induction h generalizing previous previous' with
  | nil => exact .nil
  | @cons p q ps qs hpq hrest ih =>
      cases hpq with
      | text s =>
          rw [applyFrom, applyFrom, between_of_sameTag hp (sameTag_leadTag? hrest)]
          exact (SameParts.refl _).append (ih .none)
      | tag kind inner line line' left right =>
          rw [applyFrom, applyFrom]
          refine SameParts.append ?_ (ih (.some (.tag ..)))
          cases kind with
          | output => exact .output inner line line' .nil
          | statement => exact .statement inner line line' .nil
          | comment => exact .nil

theorem textParts_append (s t : List Char) : SameParts (textParts (s ++ t)) (textParts s ++ textParts t) := by
  cases s with
  | nil => exact .refl _
  | cons c s =>
      cases t with
      | nil =>
          rw [List.append_nil]
          exact .refl _
      | cons d t => exact .divided (c :: s) (d :: t) .nil

end
end Spacing

/-! ### Comments between two texts -/

namespace Piece

/-- The tag that pieces end with. -/
def lastTag? (ps : List Piece) : Option Tag := ps.getLast?.bind tag?

section
variable {ps qs qs' : List Piece} {s t w : List Char} {options : Spacing}

theorem EndWithTag.eq_or (h : EndWithTag ps) : ps = [] ∨ ∃ qs t, ps = qs ++ [.tag t] := by
  rcases List.eq_nil_or_concat ps with rfl | ⟨qs, p, rfl⟩
  · exact .inl rfl
  · rw [List.concat_eq_append] at h ⊢
    cases p with
    | tag t => exact .inr ⟨qs, t, rfl⟩
    | text s => exact absurd List.getLast?_concat (h s)

theorem apply_append (h : EndWithTag ps) (options : Spacing) (qs : List Piece) :
    options.apply (ps ++ qs) = options.apply ps ++ options.applyFrom (lastTag? ps) qs := by
  rcases h.eq_or with rfl | ⟨ps, t, rfl⟩
  · rfl
  · have hlast : lastTag? (ps ++ [.tag t]) = some t := by
      rw [lastTag?, List.getLast?_concat]
      rfl
    rw [hlast, List.append_assoc]
    exact Spacing.applyFrom_append_tag none ps t qs

/-- The text in front of a comment line, and the one behind it, have the white space that the whole text has
without the comment line. -/
theorem sameParts_comment (hps : EndWithTag ps) (hline : ps = [] ∧ t = [] ∨ t.getLast? = some '\n')
    (hprevious : ∀ tag ∈ lastTag? ps, tag.right ≠ .trim)
    (hnext : ∀ tag ∈ Spacing.leadTag? qs, tag.left ≠ .trim)
    (hqs : StartWithTag qs) (hqs' : StartWithTag qs') (hlines : List.Forall₂ SameButLine qs qs')
    (hw : ∀ c ∈ w, Spacing.isIndentation c = true) (inner : List Char) (line : Nat) :
    SameParts (Spacing.standard.apply (ps ++ (textPiece (t ++ s) ++ qs)))
      (Spacing.standard.apply (ps ++ (textPiece (t ++ w) ++
        .tag ⟨.comment, inner, line, .plain, .plain⟩ :: (textPiece ('\n' :: s) ++ qs')))) := by
  obtain ⟨v, hv⟩ : ∃ v, ∀ (next : Option Tag) (u : List Char), (∀ tag ∈ next, tag.left ≠ .trim) →
      Spacing.standard.between (lastTag? ps) next (t ++ u) = v ++ Spacing.standard.between none next u := by
    rcases hline with ⟨rfl, rfl⟩ | hlast
    · exact ⟨[], fun next u _ => rfl⟩
    · obtain ⟨u, rfl⟩ := List.getLast?_eq_some_iff.mp hlast
      obtain ⟨v, hv⟩ := Spacing.exists_between_line .standard hprevious u
      exact ⟨v, fun next x hn => by rw [← List.append_cons]; exact hv next x hn⟩
  let comment : Tag := ⟨.comment, inner, line, .plain, .plain⟩
  have hbefore : Spacing.standard.between (lastTag? ps) (some comment) (t ++ w) = v := by
    have hnone : Spacing.standard.between none (some comment) w = [] :=
      Spacing.dropIndentation_indentation hw
    rw [hv _ _ fun tag htag => by cases htag; exact Marker.noConfusion, hnone, List.append_nil]
  have hbehind : Spacing.standard.between (some comment) (Spacing.leadTag? qs') ('\n' :: s) =
      Spacing.standard.between none (Spacing.leadTag? qs) s :=
    (Spacing.between_of_sameTag .none (Spacing.sameTag_leadTag? hlines) s).symm
  rw [apply_append hps, apply_append hps, Spacing.applyFrom_textPiece hqs,
    Spacing.applyFrom_textPiece (startWithTag_cons comment _), hv _ _ hnext]
  refine (SameParts.refl _).append ?_
  show SameParts _ (Spacing.textParts (Spacing.standard.between (lastTag? ps) (some comment) (t ++ w)) ++
    Spacing.standard.applyFrom (some comment) (textPiece ('\n' :: s) ++ qs'))
  rw [hbefore, Spacing.applyFrom_textPiece hqs', hbehind, ← List.append_assoc]
  exact (Spacing.textParts_append _ _).append (Spacing.applyFrom_of_sameButLines hlines .none)

end

/-! ### Sources with a comment line -/

section
variable {above below w c : List Char}

theorem spanInner_comment (h : ¬"#\x7d".toList <:+: c) (rest : List Char) :
    spanInner '#' false none (c ++ '#' :: '\x7d' :: rest) = some (c, rest) := by
  induction c with
  | nil =>
      show spanInner '#' false none ('#' :: '\x7d' :: rest) = _
      rw [spanInner]
      rfl
  | cons d c ih =>
      have hmore := ih fun hc => h (hc.trans (List.suffix_cons d c).isInfix)
      rw [List.cons_append, spanInner, Bool.false_and, if_neg Bool.false_ne_true]
      split
      · next tail htail =>
          by_cases hd : d = '#'
          · subst hd
            rw [if_pos rfl] at htail
            cases c with
            | nil => exact absurd (List.cons.inj htail).1 (by decide)
            | cons e c =>
                obtain ⟨rfl, -⟩ := List.cons.inj htail
                exact absurd (List.prefix_append _ c).isInfix h
          · rw [if_neg hd] at htail
            cases htail
      · rw [hmore]
        rfl

theorem cutFrom_comment (hc : IsComment c) (total : Nat) (rest : List Char) :
    ∃ line, tagsFrom total ('\x7b' :: '#' :: (c ++ '#' :: '\x7d' :: rest)) =
      (cutFrom total rest).map (.tag ⟨.comment, Text.trim c, line, .plain, .plain⟩ :: ·) := by
  have hleft : leadMarker (c ++ '#' :: '\x7d' :: rest) = (.plain, c ++ '#' :: '\x7d' :: rest) := by
    refine leadMarker_append_of_marker (show [] ∈ [[], ['-'], ['+']] by simp) fun m hm => ?_
    cases c with
    | nil =>
        cases hm
        decide
    | cons d c => exact hc.left m hm
  have hright : tailMarker c = (.plain, c) := by
    unfold tailMarker
    split
    · next hlast => exact absurd rfl (hc.right _ hlast).1
    · next hlast => exact absurd rfl (hc.right _ hlast).2
    · rfl
  have htext : spanText ('\x7b' :: '#' :: (c ++ '#' :: '\x7d' :: rest)) =
      ([], some (.comment, c ++ '#' :: '\x7d' :: rest)) := spanText_tag rfl _
  have hinner : spanInner (closer .comment) (TagKind.comment != .comment) none
      (leadMarker (c ++ '#' :: '\x7d' :: rest)).2 = some (c, rest) := by
    rw [hleft]
    exact spanInner_comment hc.closes rest
  have hlead := lead_eq_ofTag htext hinner
  refine ⟨lineOf total (c ++ '#' :: '\x7d' :: rest), ?_⟩
  rw [tagsFrom, hlead]
  unfold Lead.ofTag
  rw [hleft, hright, if_neg (by simp), if_neg (by simp)]
  rfl

theorem cut_append (s t : List Char) :
    cut (s ++ t) = cutFrom (Text.lineFeeds s + Text.lineFeeds t) (s ++ t) := by
  rw [cut_eq, lineFeeds_append]

theorem filterMap_textPiece (s : List Char) : (textPiece s).filterMap tag? = [] := by
  unfold textPiece
  split <;> rfl

theorem getLast?_filterMap_tag? {ps : List Piece} (h : EndWithTag ps) :
    (ps.filterMap tag?).getLast? = lastTag? ps := by
  rcases h.eq_or with rfl | ⟨ps, t, rfl⟩
  · rfl
  · rw [List.filterMap_append, lastTag?, List.getLast?_concat]
    exact List.getLast?_concat

theorem head?_filterMap_tag? {qs : List Piece} (h : StartWithTag qs) :
    (qs.filterMap tag?).head? = Spacing.leadTag? qs := by
  cases qs with
  | nil => rfl
  | cons q qs =>
      cases q with
      | tag t => rfl
      | text s => exact absurd rfl (h s)

/-- A source that ends a line outside of tags is cut as far as its last text, or has a stray end tag. -/
theorem cut_of_endsOutside (hline : above = [] ∨ above.getLast? = some '\n') (houtside : EndsOutside above) :
    (∃ line, ∀ more, cut (above ++ more) = .error (line, .strayEndraw)) ∨
    ∃ ps t, EndWithTag ps ∧ Passes t ∧ (ps = [] ∧ t = [] ∨ t.getLast? = some '\n') ∧
      ∀ more, cut (above ++ more) =
        (cutFrom (Text.lineFeeds above + Text.lineFeeds more) (t ++ more)).map (ps ++ ·) := by
  rcases hline with rfl | hlast
  · refine .inr ⟨[], [], nofun, passes_nil, .inl ⟨rfl, rfl⟩, fun more => ?_⟩
    rw [cut_append]
    cases cutFrom (Text.lineFeeds [] + Text.lineFeeds more) ([] ++ more) <;> rfl
  · rw [EndsOutside, cut_eq] at houtside
    rcases cutFrom_append hlast houtside with ⟨line, hcut⟩ | ⟨ps, t, hps, ht, htlast, hcut⟩
    · exact .inl ⟨line, fun more => (cut_append above more).trans (hcut more)⟩
    · exact .inr ⟨ps, t, hps, ht, .inr htlast, fun more => (cut_append above more).trans (hcut more)⟩

theorem getLast?_tags {ps : List Piece} {t : List Char} {total : Nat} (hps : EndWithTag ps) (ht : Passes t)
    (hcut : cut above = (cutFrom total t).map (ps ++ ·)) : (tags above).getLast? = lastTag? ps := by
  have htext : cutFrom total t = .ok (textPiece t) := by
    have h := cutFrom_of_passes ht total []
    rw [List.append_nil] at h
    rw [h]
    show Except.ok (textPiece (t ++ []) ++ []) = _
    rw [List.append_nil, List.append_nil]
  rw [tags, hcut, htext]
  show ((ps ++ textPiece t).filterMap tag?).getLast? = _
  rw [List.filterMap_append, filterMap_textPiece, List.append_nil, getLast?_filterMap_tag? hps]

theorem left_of_tagsFrom {total : Nat} {qs : List Piece} (h : tagsFrom total below = .ok qs)
    (hbelow : ∀ t ∈ (tags below).head?, t.left ≠ .trim) : ∀ t ∈ Spacing.leadTag? qs, t.left ≠ .trim := by
  have halike := tagsFrom_sameButLines total (Text.lineFeeds below) below
  rw [h] at halike
  obtain ⟨_, qs', hqs, hqs', hlines⟩ | ⟨_, _, herror, -⟩ := halike.cases_eq
  · cases hqs
    have htags : (tags below).head? = Spacing.leadTag? qs' := by
      rw [tags, cut_eq, cutFrom_eq, hqs']
      show ((textPiece (spanText below).1 ++ qs').filterMap tag?).head? = _
      rw [List.filterMap_append, filterMap_textPiece, List.nil_append,
        head?_filterMap_tag? (startWithTag_of_tagsFrom hqs')]
    rw [htags] at hbelow
    have hlead := Spacing.sameTag_leadTag? hlines
    generalize Spacing.leadTag? qs' = found' at hlead hbelow
    intro t ht
    rw [Option.mem_def.mp ht] at hlead
    cases hlead with
    | some htag =>
        have hleft := hbelow _ rfl
        cases htag
        exact hleft
  · cases herror

/-- A source with a comment line is cut into the parts that it has without that line, but for how the text
around the line is divided; or it cannot be cut with or without the line. -/
theorem cut_comment (h : HasLinePlace above below) (hw : ∀ c ∈ w, Spacing.isIndentation c = true)
    (hc : IsComment c) :
    Alike (fun _ _ => True)
      (fun ps qs => SameParts (Spacing.standard.apply ps) (Spacing.standard.apply qs)) (cut (above ++ below))
      (cut (above ++ (w ++ '\x7b' :: '#' :: (c ++ '#' :: '\x7d' :: '\n' :: below)))) := by
  rcases cut_of_endsOutside h.line h.outside with ⟨line, hstray⟩ | ⟨ps, t, hps, ht, hline, hcut⟩
  · rw [hstray, hstray]
    exact .error trivial
  · have habove := h.above
    rw [getLast?_tags hps ht (by simpa using hcut [])] at habove
    have hpasses : Passes w := passes_of_not_mem fun hmem => absurd (hw _ hmem) (by decide)
    rw [hcut, hcut]
    generalize Text.lineFeeds above + Text.lineFeeds below = n
    generalize Text.lineFeeds above + Text.lineFeeds _ = m
    obtain ⟨line, hcomment⟩ := cutFrom_comment hc m ('\n' :: below)
    have hline' : cutFrom m ('\n' :: below) =
        (tagsFrom m below).map (textPiece ('\n' :: (spanText below).1) ++ ·) :=
      cutFrom_of_passes (passes_char (by decide)) m below
    rw [cutFrom_of_passes ht, ← List.append_assoc, cutFrom_of_passes (ht.append hpasses), hcomment, hline',
      spanText_tag rfl, List.append_nil]
    obtain ⟨qs, qs', hqs, hqs', hlines⟩ | ⟨_, _, hqs, hqs', -⟩ :=
      (tagsFrom_sameButLines n m below).cases_eq
    · rw [hqs, hqs']
      refine .ok ?_
      exact sameParts_comment hps hline habove (left_of_tagsFrom hqs h.below) (startWithTag_of_tagsFrom hqs)
        (startWithTag_of_tagsFrom hqs') hlines hw _ line
    · rw [hqs, hqs']
      exact .error trivial

end
end Piece

/-! ### Templates with a comment line -/

section
variable {above below indentation comment : String}

theorem toList_commentLine (above below indentation comment : String) :
    (above ++ commentLine indentation comment ++ below).toList =
      above.toList ++ (indentation.toList ++
        '\x7b' :: '#' :: (comment.toList ++ '#' :: '\x7d' :: '\n' :: below.toList)) := by
  simp [commentLine, String.toList_append]

/-- A source with a comment line is parsed to the template that it has without that line, but for how texts
are divided; or it is parsed neither with nor without the line. -/
theorem parse_commentLine (h : HasLinePlace above.toList below.toList)
    (hi : ∀ c ∈ indentation.toList, Spacing.isIndentation c = true) (hc : IsComment comment.toList)
    (name : String) :
    Alike (fun _ _ => True) (Related SameRows) (parse .standard name (above ++ below))
      (parse .standard name (above ++ commentLine indentation comment ++ below)) := by
  have hcut := Piece.cut_comment h hi hc
  rw [← toList_commentLine, ← String.toList_append] at hcut
  have hchars : Alike (fun _ _ => True) (Related SameRows)
      (parseChars .standard name (above ++ below).toList)
      (parseChars .standard name (above ++ commentLine indentation comment ++ below).toList) := by
    unfold parseChars
    rcases hcut.cases_eq with ⟨ps, qs, hps, hqs, hparts⟩ | ⟨_, _, hps, hqs, -⟩
    · rw [hps, hqs]
      exact hparts.template name
    · rw [hps, hqs]
      exact .error trivial
  unfold parse
  rcases hchars.cases_eq with ⟨t, t', ht, ht', hrelated⟩ | ⟨_, _, ht, ht', -⟩
  · rw [ht, ht']
    exact .ok hrelated
  · rw [ht, ht']
    exact .error trivial

theorem related_refl (t : Template) : Related SameRows t t :=
  ⟨rfl, rfl, .refl _, List.forall₂_same.mpr fun _ _ => ⟨rfl, rfl, .refl _⟩⟩

/-- A line that holds nothing but a comment disappears under the standard options: a source is parsed with it
if and only if it is parsed without it, and every chain that the source is part of is then composed and
rendered to the same text, or fails with the same error. -/
theorem commentLine_disappears (contents : String → Option String) (name : String)
    (h : HasLinePlace above.toList below.toList)
    (hi : ∀ c ∈ indentation.toList, Spacing.isIndentation c = true) (hc : IsComment comment.toList) :
    ((∃ t, parse .standard name (above ++ commentLine indentation comment ++ below) = .ok t) ↔
      ∃ t, parse .standard name (above ++ below) = .ok t) ∧
    ∀ chain className context,
      (compose (parsed .standard (Function.update contents name
        (some (above ++ commentLine indentation comment ++ below)))) chain >>=
          fun r => render r className context) =
      (compose (parsed .standard (Function.update contents name (some (above ++ below)))) chain >>=
          fun r => render r className context) := by
  constructor
  · rcases (parse_commentLine h hi hc name).cases_eq with ⟨t, t', ht, ht', -⟩ | ⟨e, e', he, he', -⟩
    · exact ⟨fun _ => ⟨t, ht⟩, fun _ => ⟨t', ht'⟩⟩
    · rw [he, he']
      exact ⟨nofun, nofun⟩
  · intro chain className context
    have hsources (n : String) : Option.Rel (Related SameRows)
        (parsed .standard (Function.update contents name (some (above ++ below))) n)
        (parsed .standard (Function.update contents name
          (some (above ++ commentLine indentation comment ++ below))) n) := by
      unfold parsed
      by_cases hn : n = name
      · subst hn
        rw [Function.update_self, Function.update_self]
        show Option.Rel _ (parse .standard n (above ++ below)).toOption
          (parse .standard n (above ++ commentLine indentation comment ++ below)).toOption
        obtain ⟨t, t', ht, ht', hrelated⟩ | ⟨_, _, ht, ht', -⟩ := (parse_commentLine h hi hc n).cases_eq
        · rw [ht, ht']
          exact .some hrelated
        · rw [ht, ht']
          exact .none
      · rw [Function.update_of_ne hn, Function.update_of_ne hn]
        cases (contents n).bind fun content => (parse .standard n content).toOption with
        | none => exact .none
        | some t => exact .some (related_refl t)
    have hcomposed := compose_related splices_sameRows hsources chain
    rcases hcomposed.cases_eq with ⟨r, r', hr, hr', hrelated⟩ | ⟨e, _, hr, hr', rfl⟩
    · rw [hr, hr']
      exact (render_of_same hrelated className context).symm
    · rw [hr, hr']

/-- An indented comment below the opening of a condition. -/
theorem commentLine_disappears_below_if :
    HasLinePlace "\x7b% if x %\x7d\n".toList "  a\n\x7b% endif %\x7d".toList ∧
    ∃ t, parse .standard "page"
      ("\x7b% if x %\x7d\n" ++ commentLine "  " " note " ++ "  a\n\x7b% endif %\x7d") = .ok t := by
  have habove : Piece.cut "\x7b% if x %\x7d\n".toList =
      .ok [.tag ⟨.statement, "if x".toList, 1, .plain, .plain⟩, .text ['\n']] := by
    refine @Piece.cut_of_cutWithin 2 _ _ ?_
    decide +kernel
  have hbelow : Piece.cut "  a\n\x7b% endif %\x7d".toList =
      .ok [.text "  a\n".toList, .tag ⟨.statement, "endif".toList, 2, .plain, .plain⟩] := by
    refine @Piece.cut_of_cutWithin 2 _ _ ?_
    decide +kernel
  have hplace : HasLinePlace "\x7b% if x %\x7d\n".toList "  a\n\x7b% endif %\x7d".toList := by
    refine ⟨.inr (by decide), ?_, ?_, ?_⟩
    · intro line fault h
      cases habove.symm.trans h
    · rw [Piece.tags, habove]
      decide
    · rw [Piece.tags, hbelow]
      decide
  have hwithout : parse .standard "page" ("\x7b% if x %\x7d\n" ++ "  a\n\x7b% endif %\x7d") =
      .ok (ofOutline "page" none [.choice [(.var "x", [.text "  a\n"])] []]) :=
    parse_of_saysOutline (show saysOutline .standard none _ 3 _ = true by decide +kernel)
  have hspaces : ∀ c ∈ "  ".toList, Spacing.isIndentation c = true := List.all_eq_true.mp (by decide)
  have hcomment : IsComment " note ".toList := by
    have hfirst : " note ".toList.head? = some ' ' := by decide
    have hlast : " note ".toList.getLast? = some ' ' := by decide
    refine ⟨by decide, ?_, ?_⟩
    · rw [hfirst]
      rintro _ ⟨⟩
      decide
    · rw [hlast]
      rintro _ ⟨⟩
      decide
  exact ⟨hplace, (commentLine_disappears (fun _ => none) "page" hplace hspaces hcomment).1.mpr ⟨_, hwithout⟩⟩

end

end ClassScribe.Template
