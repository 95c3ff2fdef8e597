import ClassScribe.Proofs.Template.Acceptance
import ClassScribe.Proofs.Template.CommentLine
import ClassScribe.Proofs.Template.Interchange
import ClassScribe.Proofs.Template.RawSection

/-! # White space between the words of tags is interchangeable

A plain blank inside of a tag and outside of string literals does not count for where the tags of a source are
(`cut_respaced`), and unless a statement binds it, the tag means the same with another one. So the source is
read to the same template, or not at all with either of them (`parse_respaced`). -/

namespace ClassScribe.Template

namespace Piece

variable {s s' t u v front body body' inside inside' behind rest : List Char} {c d : Char} {kind : TagKind}
  {quote : Option Char} {ps qs : List Piece} {total total' : Nat}

/-! ### Pieces with other blanks -/

/-- Whether white space in a tag is not bound by a statement. -/
def Unbound (kind : TagKind) (u v : List Char) : Prop := kind = .statement → ¬Statement.Binds u v

/-- Pieces that are the same but for the lines of tags, and for a plain blank that may be interchanged. -/
inductive Respaced : Piece → Piece → Prop
  | text (s : List Char) : Respaced (.text s) (.text s)
  | tag {kind : TagKind} {inner inner' : List Char} (line line' : Nat) (left right : Marker) :
      Interchanged (Unbound kind) inner inner' →
      Respaced (.tag ⟨kind, inner, line, left, right⟩) (.tag ⟨kind, inner', line', left, right⟩)

theorem SameButLine.respaced {p q : Piece} (h : SameButLine p q) : p.Respaced q := by
  cases h with
  | text s => exact .text s
  | tag kind inner line line' left right => exact .tag line line' left right (.refl inner)

theorem Respaced.symm {p q : Piece} (h : p.Respaced q) : q.Respaced p := by
  cases h with
  | text s => exact .text s
  | tag line line' left right hinner => exact .tag line' line left right hinner.symm

theorem respaced_textPiece (s : List Char) : List.Forall₂ Respaced (textPiece s) (textPiece s) :=
  (forall₂_textPiece s).imp fun _ _ => SameButLine.respaced

/-! ### The closing of a tag -/

theorem ne_of_isPlainBlank (hc : Text.isPlainBlank c = true) :
    c ≠ '-' ∧ c ≠ '+' ∧ c ≠ '\x7d' ∧ ∀ kind, c ≠ closer kind := by
  simp only [Text.isPlainBlank, Bool.or_eq_true, beq_iff_eq] at hc
  rcases hc with (rfl | rfl) | rfl
  all_goals
    refine ⟨by decide, by decide, by decide, fun kind => ?_⟩
    cases kind <;> decide

theorem staysOpen_of_not_mem (hu : Text.quoteBehind none u = none) (hclose : closer kind ∉ u) :
    StaysOpen kind u := by
  refine ⟨hu, ?_⟩
  rintro l r rfl
  exact absurd (List.mem_append_right l List.mem_cons_self) hclose

theorem spanInner_append_blank (hc : Text.isPlainBlank c = true) (hu : Text.quoteBehind quote u = none)
    (hopen : ∀ l r, u = l ++ closer kind :: '\x7d' :: r → Text.quoteBehind quote l ≠ none)
    (behind : List Char) : spanInner (closer kind) true quote (u ++ c :: behind) =
      (spanInner (closer kind) true none behind).map fun (s, r) => (u ++ c :: s, r) := by
  obtain ⟨-, -, hbrace, hcloser⟩ := ne_of_isPlainBlank hc
  fun_induction Text.quoteBehind quote u with
  | case1 quote =>
      subst hu
      have hquote : (c == '"' || c == '\'') = false := Text.isQuote_of_isBlank (Text.isBlank_of_isPlainBlank hc)
      rw [List.nil_append, spanInner, hquote, Bool.and_false, if_neg Bool.false_ne_true, if_neg (hcloser kind)]
      rfl
  | case2 x u ih =>
      have hmore := ih hu fun l r hlr => by
        have hclosing := hopen (x :: l) r (by rw [hlr]; rfl)
        rwa [Text.quoteBehind] at hclosing
      rw [List.cons_append, spanInner, Bool.true_and]
      change (if Text.isQuote x = true then _ else _) = _
      by_cases hx : Text.isQuote x = true
      · rw [if_pos hx] at hmore
        rw [if_pos hx, hmore]
        cases spanInner (closer kind) true none behind <;> rfl
      · rw [if_neg hx] at hmore
        rw [if_neg hx]
        split
        · next tail htail =>
            by_cases hclose : x = closer kind
            · rw [if_pos hclose] at htail
              cases u with
              | nil => exact absurd (List.cons.inj htail).1 hbrace
              | cons y u =>
                  obtain ⟨rfl, -⟩ := List.cons.inj htail
                  exact absurd rfl (hopen [] u (by rw [hclose]; rfl))
            · rw [if_neg hclose] at htail
              cases htail
        · rw [hmore]
          cases spanInner (closer kind) true none behind <;> rfl
  | case3 q => cases hu
  | case4 q x u ih =>
      rw [List.cons_append, List.cons_append, spanInner, if_pos rfl, ih hu]
      · cases spanInner (closer kind) true none behind <;> rfl
      · rintro l r rfl
        exact hopen ('\\' :: x :: l) r rfl
  | case5 q x u hend hescape ih =>
      have hx : x ≠ '\\' := by
        intro hx
        cases u with
        | nil => exact hend hx rfl
        | cons y u => exact hescape y u hx rfl
      have hmore := ih hu fun l r hlr => by
        have hclosing := hopen (x :: l) r (by rw [hlr]; rfl)
        rwa [Text.quoteBehind_of_ne hx] at hclosing
      rw [List.cons_append, spanInner.eq_def]
      dsimp only
      rw [if_neg hx, hmore]
      cases spanInner (closer kind) true none behind <;> rfl

/-! ### Insides with other blanks -/

theorem leadMarker_append_blank (hc : Text.isPlainBlank c = true) (front behind : List Char) :
    leadMarker (front ++ c :: behind) = ((leadMarker front).1, (leadMarker front).2 ++ c :: behind) := by
  obtain ⟨hminus, hplus, -, -⟩ := ne_of_isPlainBlank hc
  cases front with
  | nil =>
      rw [List.nil_append]
      unfold leadMarker
      split
      · next heq => exact absurd (List.cons.inj heq).1 hminus
      · next heq => exact absurd (List.cons.inj heq).1 hplus
      · rfl
  | cons x front => exact leadMarker_append (List.cons_ne_nil x front) _

theorem tailMarker_append_blank (hc : Text.isPlainBlank c = true) (u inside : List Char) :
    tailMarker (u ++ c :: inside) = ((tailMarker inside).1, u ++ c :: (tailMarker inside).2) := by
  obtain ⟨hminus, hplus, -, -⟩ := ne_of_isPlainBlank hc
  cases inside with
  | nil =>
      unfold tailMarker
      rw [List.getLast?_concat]
      split
      · next heq => exact absurd (Option.some.inj heq) hminus
      · next heq => exact absurd (Option.some.inj heq) hplus
      · rfl
  | cons x inside =>
      have hlast : (u ++ c :: x :: inside).getLast? = (x :: inside).getLast? := by
        rw [List.getLast?_append_cons, List.getLast?_cons_cons]
      have hdrop : (u ++ c :: x :: inside).dropLast = u ++ c :: (x :: inside).dropLast := by
        rw [List.dropLast_append_of_ne_nil (by simp)]
        rfl
      unfold tailMarker
      rw [hlast, hdrop]
      split <;> rfl

theorem binds_of_trim (h : Statement.Binds (Text.trimStart u) (Text.trimEnd v)) : Statement.Binds u v := by
  have hstart : Text.trimStart u <:+ u := List.dropWhile_suffix _
  have hend : Text.trimEnd v <+: v := by
    obtain ⟨r, -, hv⟩ := Text.exists_trimEnd v
    exact ⟨r, hv.symm⟩
  generalize hu' : Text.trimStart u = u' at h hstart
  generalize hv' : Text.trimEnd v = v' at h hend
  have hwordsu : Text.words u' = Text.words u := hu' ▸ Text.words_trimStart u
  have hwordsv : Text.words v' = Text.words v := hv' ▸ Text.words_trimEnd v
  cases h with
  | beforeIn htarget hbefore hbehind hin =>
      exact .beforeIn htarget (hwordsu ▸ hbefore) (hwordsv ▸ hbehind) (hin.trans hend)
  | behindIn htarget hbefore hin hbehind =>
      exact .behindIn htarget (hwordsu ▸ hbefore) (hin.trans hstart) (hwordsv ▸ hbehind)
  | parent hbefore hbehind => exact .parent (hwordsu ▸ hbefore) (hwordsv ▸ hbehind)

/-- A blank in a tag can be interchanged in the trimmed text of the tag, or is trimmed off. -/
theorem interchanged_trim (hu : Text.quoteBehind none u = none) (hc : Text.isPlainBlank c = true)
    (hd : Text.isPlainBlank d = true) (hfree : Unbound kind u v) :
    Interchanged (Unbound kind) (Text.trim (u ++ c :: v)) (Text.trim (u ++ d :: v)) := by
  have hc' := Text.isBlank_of_isPlainBlank hc
  have hd' := Text.isBlank_of_isPlainBlank hd
  by_cases hublank : Text.AllBlank u
  · rw [Text.trim_append_blank_left hc' hublank, Text.trim_append_blank_left hd' hublank]
    exact .refl _
  by_cases hvblank : Text.AllBlank v
  · rw [Text.trim_append_blank_right hc' u hvblank, Text.trim_append_blank_right hd' u hvblank]
    exact .refl _
  rw [Text.trim_append_blank_between hublank hvblank, Text.trim_append_blank_between hublank hvblank]
  refine .blank ?_ hc hd ?_ fun hkind hbinds => hfree hkind (binds_of_trim hbinds)
  · obtain ⟨l, hl, hstart⟩ := Text.exists_trimStart u
    rwa [hstart, Text.quoteBehind_allBlank_append hl] at hu
  · have hne : Text.trimEnd v ≠ [] := Text.trimEnd_ne_nil hvblank
    exact ⟨_, List.getLast?_eq_some_getLast hne,
      Text.isBlank_getLast_trimEnd v _ (List.getLast?_eq_some_getLast hne)⟩

/-! ### Fronts with other blanks -/

/-- Fronts of sources that are the same but for the lines of tags, and for a plain blank that may be
interchanged. -/
inductive Lead.Respaced : Lead → Lead → Prop
  | fault (after after' : List Char) (fault fault' : CutFault) :
      Respaced (.fault after fault) (.fault after' fault')
  | tags {pieces pieces' : Nat → List Piece} (rest : List Char) :
      (∀ total total', List.Forall₂ Piece.Respaced (pieces total) (pieces' total')) →
      Respaced (.tags pieces rest) (.tags pieces' rest)

theorem Lead.ofTag_respaced (hleft : (leadMarker body').1 = (leadMarker body).1)
    (hright : (tailMarker inside').1 = (tailMarker inside).1)
    (hinner : Interchanged (Unbound kind) (Text.trim (tailMarker inside).2)
      (Text.trim (tailMarker inside').2)) :
    (Lead.ofTag kind body inside rest).Respaced (Lead.ofTag kind body' inside' rest) := by
  have hword {w : List Char} (hw : Text.NoBlank w) :
      Text.trim (tailMarker inside').2 = w ↔ Text.trim (tailMarker inside).2 = w := by
    constructor
    · rintro rfl
      exact hinner.symm.eq_of_noBlank hw
    · rintro rfl
      exact hinner.eq_of_noBlank hw
  have hend := hword (show Text.NoBlank "endraw".toList from Text.noBlank_of_isIdentifier (by decide))
  have hraw := hword (show Text.NoBlank "raw".toList from Text.noBlank_of_isIdentifier (by decide))
  unfold Lead.ofTag
  dsimp only
  simp only [hleft, hright, hend, hraw]
  split_ifs with hstray hsection
  · exact .fault ..
  · rw [hraw.mpr hsection.2, hsection.2]
    cases spanRaw rest with
    | none => exact .fault ..
    | some found =>
        refine .tags _ fun total total' => .cons (.tag _ _ _ _ (.refl _)) ?_
        exact List.rel_append (respaced_textPiece _) (.cons (.tag _ _ _ _ (.refl _)) .nil)
  · exact .tags _ fun total total' => .cons (.tag _ _ _ _ hinner) .nil

theorem cutFrom_respaced (htext : (spanText s').1 = (spanText s).1)
    (hlead : Option.Rel Lead.Respaced (lead s) (lead s')) (total total' : Nat) :
    Alike (fun _ _ => True) (List.Forall₂ Respaced) (cutFrom total s) (cutFrom total' s') := by
  have htags : Alike (fun _ _ => True) (List.Forall₂ Respaced) (tagsFrom total s) (tagsFrom total' s') := by
    unfold tagsFrom
    generalize lead s = found at hlead
    generalize lead s' = found' at hlead
    cases hlead with
    | none => exact .ok .nil
    | some hfront =>
        cases hfront with
        | fault => exact .error trivial
        | tags rest hpieces =>
            dsimp only
            have hrest := cutFrom_sameButLines total total' rest
            obtain ⟨_, _, h, h', hmore⟩ | ⟨_, _, h, h', -⟩ := hrest.cases_eq
            · rw [h, h']
              exact .ok (List.rel_append (hpieces total total') (hmore.imp fun _ _ => SameButLine.respaced))
            · rw [h, h']
              exact .error trivial
  rw [cutFrom_eq, cutFrom_eq, htext]
  exact htags.map fun _ _ hmore => List.rel_append (respaced_textPiece _) hmore

/-! ### Sources with other blanks -/

theorem lead_respaced_tag {opening : Char} (hopening : opens? opening = some kind) (hkind : kind ≠ .comment)
    (hfront : StaysOpen kind (leadMarker front).2) (hc : Text.isPlainBlank c = true)
    (hd : Text.isPlainBlank d = true) (hfree : IsFree kind (leadMarker front).2 behind) :
    Option.Rel Lead.Respaced (lead ('\x7b' :: opening :: (front ++ c :: behind)))
      (lead ('\x7b' :: opening :: (front ++ d :: behind))) := by
  have hquoted : (kind != .comment) = true := by simpa using hkind
  unfold lead
  rw [spanText_tag hopening, spanText_tag hopening]
  dsimp only
  rw [hquoted, leadMarker_append_blank hc, leadMarker_append_blank hd,
    spanInner_append_blank hc hfront.unquoted hfront.unclosed,
    spanInner_append_blank hd hfront.unquoted hfront.unclosed]
  cases hspan : spanInner (closer kind) true none behind with
  | none => exact .some (.fault ..)
  | some found =>
      obtain ⟨inside, rest⟩ := found
      refine .some (Lead.ofTag_respaced ?_ ?_ ?_)
      · rw [leadMarker_append_blank hc, leadMarker_append_blank hd]
      · rw [tailMarker_append_blank hc, tailMarker_append_blank hd]
      · rw [tailMarker_append_blank hc, tailMarker_append_blank hd]
        refine interchanged_trim hfront.unquoted hc hd fun hstatement => hfree hstatement _ ?_
        rw [tagRest?, hspan]
        rfl

theorem readEndraw?_interchange (h : EndrawTag (u ++ c :: v)) (hc : Text.isPlainBlank c = true)
    (hd : Text.isPlainBlank d = true) : ∃ tag tag' left right, u ++ c :: v = '\x7b' :: '%' :: tag ∧
      u ++ d :: v = '\x7b' :: '%' :: tag' ∧ ∀ rest,
        readEndraw? (tag ++ rest) = some (left, right, rest) ∧
          readEndraw? (tag' ++ rest) = some (left, right, rest) := by
  have hc' := Text.isBlank_of_isPlainBlank hc
  have hd' := Text.isBlank_of_isPlainBlank hd
  have hopen : Text.NoBlank "\x7b%".toList := Text.noBlank_of_all (by decide)
  have hword : Text.NoBlank "endraw".toList := Text.noBlank_of_all (by decide)
  have hmarker : ∀ m ∈ [[], ['-'], ['+']], Text.NoBlank m ∧ Text.NoBlank (m ++ "%\x7d".toList) := by
    intro m hm
    simp only [List.mem_cons, List.not_mem_nil, or_false] at hm
    rcases hm with rfl | rfl | rfl
    all_goals exact ⟨Text.noBlank_of_all (by decide), Text.noBlank_of_all (by decide)⟩
  generalize hs : u ++ c :: v = s at h
  cases h with
  | @tag left right blank blank' hl hr hblank hblank' =>
      obtain ⟨_, rfl, hbody⟩ := Text.exists_behind_noBlank hopen hc' hs.symm
      obtain ⟨_, rfl, hfront⟩ := Text.exists_behind_noBlank (hmarker _ hl).1 hc' hbody
      obtain ⟨r, rfl, rfl⟩ | ⟨_, rfl, hrest⟩ := Text.append_eq_append_char hfront
      · have hblank₂ := Text.allBlank_interchange hd' hblank
        refine ⟨_, _, (leadMarker left).1, (leadMarker right).1, rfl, rfl, fun rest => ⟨?_, ?_⟩⟩
        · simpa using readEndraw?_tag hl hr hblank hblank' rest
        · simpa using readEndraw?_tag hl hr hblank₂ hblank' rest
      obtain ⟨_, rfl, hback⟩ := Text.exists_behind_noBlank hword hc' hrest
      obtain ⟨r, rfl, rfl⟩ | ⟨_, -, hclose⟩ := Text.append_eq_append_char hback
      · have hblank₂ := Text.allBlank_interchange hd' hblank'
        refine ⟨_, _, (leadMarker left).1, (leadMarker right).1, rfl, rfl, fun rest => ⟨?_, ?_⟩⟩
        · simpa using readEndraw?_tag hl hr hblank hblank' rest
        · simpa using readEndraw?_tag hl hr hblank hblank₂ rest
      · have hnot := (hmarker _ hr).2 c (hclose ▸ by simp)
        rw [hc'] at hnot
        cases hnot

/-- Behind a raw section that is not closed yet, end tags with the same markers close it alike. -/
theorem lead_respaced_endraw {after below tag tag' : List Char} {left right : Marker}
    (h : lead t = some (.fault after .unclosedRaw))
    (htag : readEndraw? (tag ++ below) = some (left, right, below))
    (htag' : readEndraw? (tag' ++ below) = some (left, right, below)) :
    (spanText (t ++ '\x7b' :: '%' :: (tag' ++ below))).1 =
      (spanText (t ++ '\x7b' :: '%' :: (tag ++ below))).1 ∧
    Option.Rel Lead.Respaced (lead (t ++ '\x7b' :: '%' :: (tag ++ below)))
      (lead (t ++ '\x7b' :: '%' :: (tag' ++ below))) := by
  rcases lead_cases t with ⟨-, hs⟩ | ⟨after', close, hs⟩ | ⟨kind, body, inside, rest, hs⟩
  · cases hs.symm.trans h
  · cases hs.symm.trans h
  · refine ⟨(hs.append _).1.trans (hs.append _).1.symm, ?_⟩
    have hraw := Option.some.inj (hs.lead.symm.trans h)
    rw [(hs.append _).2, (hs.append _).2]
    unfold Lead.ofTag at hraw ⊢
    dsimp only at hraw ⊢
    split_ifs at hraw with hstray hsection
    · cases hraw
    · cases hspan : spanRaw rest with
      | some found =>
          rw [hspan] at hraw
          cases hraw
      | none =>
          have hrest := holdsNoEndraw_iff.mpr hspan
          rw [if_neg hstray, if_pos hsection, if_neg hstray, if_pos hsection, spanRaw_append hrest htag,
            spanRaw_append hrest htag', leadMarker_append hs.ne_nil, leadMarker_append hs.ne_nil]
          refine .some (.tags _ fun total total' => .cons (.tag _ _ _ _ (.refl _)) ?_)
          exact List.rel_append (respaced_textPiece _) (.cons (.tag _ _ _ _ (.refl _)) .nil)

/-- Sources that go on differently behind the same front are cut alike, if the ends of them are. -/
theorem cut_of_tail {above more more' t : List Char} {ps : List Piece} (hcut : ∀ more,
      cutFrom (Text.lineFeeds above + Text.lineFeeds more) (above ++ more) =
        (cutFrom (Text.lineFeeds above + Text.lineFeeds more) (t ++ more)).map (ps ++ ·))
    (htext : (spanText (t ++ more')).1 = (spanText (t ++ more)).1)
    (hlead : Option.Rel Lead.Respaced (lead (t ++ more)) (lead (t ++ more'))) :
    Alike (fun _ _ => True) (List.Forall₂ Respaced) (cut (above ++ more)) (cut (above ++ more')) := by
  rw [cut_append, cut_append, hcut, hcut]
  refine (cutFrom_respaced htext hlead _ _).map fun _ _ hmore => List.rel_append ?_ hmore
  exact List.forall₂_same.mpr fun p _ => by
    cases p with
    | text s => exact .text s
    | tag t => exact .tag _ _ _ _ (.refl _)

/-- A source with another blank in a tag is cut into the same pieces, but for lines and for that blank. -/
theorem cut_respaced (h : Template.Respaced IsFree s s') :
    Alike (fun _ _ => True) (List.Forall₂ Respaced) (cut s) (cut s') := by
  cases h with
  | @tag above front behind opening c d kind houtside hlast hopening hkind hfront hc hd hfree =>
      rw [EndsOutside, cut_eq] at houtside
      rcases cutFrom_append_of_outside hlast houtside with ⟨line, hstray⟩ | ⟨ps, t, -, ht, -, hcut⟩
      · rw [cut_append, cut_append, hstray, hstray]
        exact .error trivial
      · refine cut_of_tail hcut ?_ ?_
        · rw [ht, ht, spanText_tag hopening, spanText_tag hopening]
        · rw [lead_of_passes ht, lead_of_passes ht]
          exact lead_respaced_tag hopening hkind hfront hc hd hfree
  | @endraw above before behind after line c d habove htag hc hd =>
      obtain ⟨ps, t, -, -, ht, hcut⟩ := exists_tail (Text.lineFeeds above) above
      have hleft : (cutFrom (Text.lineFeeds above) t).map (ps ++ ·) = .error (line, .unclosedRaw) := by
        have hall := hcut []
        rw [List.append_nil, List.append_nil] at hall
        exact hall.symm.trans ((cut_eq above).symm.trans habove)
      rw [map_eq_error, cutFrom_eq, map_eq_error, tagsFrom] at hleft
      obtain ⟨tag, tag', left, right, hsource, hsource', hread⟩ := readEndraw?_interchange htag hc hd
      rw [hsource, hsource']
      cases hlead : lead t with
      | none =>
          rw [hlead] at hleft
          cases hleft
      | some front =>
        cases front with
        | tags pieces rest => exact absurd hlead (ht pieces rest)
        | fault place fault =>
            rw [hlead] at hleft
            cases hleft
            obtain ⟨htext, hfronts⟩ := lead_respaced_endraw hlead (hread after).1 (hread after).2
            exact cut_of_tail hcut htext hfronts

end Piece

/-! ### Parts with other blanks -/

namespace Spacing

variable {options : Spacing} {ps qs : List Piece} {previous previous' : Option Tag}

theorem sameSides_leadTag? (h : List.Forall₂ Piece.Respaced ps qs) :
    SameSides (leadTag? ps) (leadTag? qs) := by
  cases h with
  | nil => exact .none
  | cons hp _ =>
      cases hp with
      | text s => exact .none
      | tag => exact .some ⟨rfl, rfl, rfl⟩

theorem applyFrom_respaced (h : List.Forall₂ Piece.Respaced ps qs) (hp : SameSides previous previous') :
    List.Forall₂ Part.Respaced (applyFrom options previous ps) (applyFrom options previous' qs) := by
  induction h generalizing previous previous' with
  | nil => exact .nil
  | @cons p q ps qs hpq hrest ih =>
      cases hpq with
      | text s =>
          rw [applyFrom, applyFrom, between_of_sameSides hp (sameSides_leadTag? hrest)]
          refine List.rel_append ?_ (ih .none)
          unfold textParts
          split
          · exact .nil
          · exact .cons (.text _) .nil
      | @tag kind inner inner' line line' left right hinner =>
          rw [applyFrom, applyFrom]
          refine List.rel_append ?_ (ih (.some ⟨rfl, rfl, rfl⟩))
          cases kind with
          | output => exact .cons (.output (hinner.mono fun _ _ _ => trivial)) .nil
          | statement => exact .cons (.statement (hinner.mono fun _ _ hfree => hfree rfl)) .nil
          | comment => exact .nil

end Spacing

/-! ### Templates with other blanks -/

section
variable {options : Spacing} {name content content' : String} {t : Template}

/-- Sources that are cut into pieces which are the same but for blanks are read to the same template. -/
theorem parse_of_respaced {ps qs : List Piece} (hcut : Piece.cut content.toList = .ok ps)
    (hcut' : Piece.cut content'.toList = .ok qs) (h : List.Forall₂ Piece.Respaced ps qs)
    (hparse : parse options name content = .ok t) : parse options name content' = .ok t := by
  obtain ⟨_, parent, ns, hps, hsentence, hd, rfl⟩ := parse_eq_ok_iff_sentence.mp hparse
  cases hcut.symm.trans hps
  refine parse_eq_ok_iff_sentence.mpr ⟨qs, parent, ns, hcut', ?_, hd, rfl⟩
  exact hsentence.interchange (Spacing.applyFrom_respaced h .none)

theorem parse_cases (options : Spacing) (name content : String) :
    (∃ t, parse options name content = .ok t) ∨
      ∃ line fault, parse options name content = .error (.invalidSyntax name line fault) := by
  unfold parse
  cases parseChars options name content.toList with
  | ok t => exact .inl ⟨t, rfl⟩
  | error e => exact .inr ⟨e.1, e.2, rfl⟩

/-- White space between the words of a tag is interchangeable: a space, tab or line feed in an output, in a
statement or in the end tag of a raw section, outside of string literals, can be replaced by another one of
them. The source is then read to the same template, or to an error of syntax as before. The exceptions are the
spaces around the `in` of a loop and white space in the name of a parent. -/
theorem parse_respaced (options : Spacing) (name content content' : String)
    (h : Respaced Piece.IsFree content.toList content'.toList) : ReadAlike options name content content' := by
  have hcut := Piece.cut_respaced h
  have hiff (t : Template) : parse options name content = .ok t ↔ parse options name content' = .ok t := by
    rcases hcut.cases_eq with ⟨ps, qs, hps, hqs, hpieces⟩ | ⟨e, e', he, he', -⟩
    · exact ⟨parse_of_respaced hps hqs hpieces,
        parse_of_respaced hqs hps (hpieces.flip.imp fun _ _ h => h.symm)⟩
    · constructor
      · intro hparse
        obtain ⟨_, _, _, hps, -⟩ := parse_eq_ok_iff_sentence.mp hparse
        cases he.symm.trans hps
      · intro hparse
        obtain ⟨_, _, _, hps, -⟩ := parse_eq_ok_iff_sentence.mp hparse
        cases he'.symm.trans hps
  rcases parse_cases options name content with ⟨t, ht⟩ | ⟨line, fault, herror⟩
  · exact .inl ⟨t, ht, (hiff t).mp ht⟩
  · rcases parse_cases options name content' with ⟨t, ht⟩ | ⟨line', fault', herror'⟩
    · cases herror.symm.trans ((hiff t).mpr ht)
    · exact .inr ⟨line, fault, line', fault', herror, herror'⟩

theorem endsOutside_nil : Piece.EndsOutside [] := by
  have hcut : Piece.cut [] = .ok [] := @Piece.cut_of_cutWithin 1 _ _ (by decide)
  intro line fault h
  cases hcut.symm.trans h

theorem parse_spaced_loop : parse .standard "page" "\x7b% for a in b %\x7dx\x7b% endfor %\x7d" =
    .ok (ofOutline "page" none [.loop "a" (.var "b") [.text "x"]]) :=
  parse_of_saysOutline (show saysOutline .standard none _ 3 _ = true by decide +kernel)

/-- A line feed in the place of the space behind the keyword of a loop. -/
theorem parse_respaced_line_feed :
    Respaced Piece.IsFree "\x7b% for a in b %\x7dx\x7b% endfor %\x7d".toList
      "\x7b% for\na in b %\x7dx\x7b% endfor %\x7d".toList ∧
    ∃ t, parse .standard "page" "\x7b% for\na in b %\x7dx\x7b% endfor %\x7d" = .ok t := by
  have hrespaced : Respaced Piece.IsFree "\x7b% for a in b %\x7dx\x7b% endfor %\x7d".toList
      "\x7b% for\na in b %\x7dx\x7b% endfor %\x7d".toList := by
    have hfront : Piece.StaysOpen .statement " for".toList :=
      Piece.staysOpen_of_not_mem (by decide) (by decide)
    have hfree : Piece.IsFree .statement " for".toList "a in b %\x7dx\x7b% endfor %\x7d".toList := by
      intro _ rest _ hbinds
      have hwords : Text.words " for".toList = ["for".toList] := rfl
      cases hbinds with
      | beforeIn _ hbefore => cases hwords.symm.trans hbefore
      | behindIn _ hbefore => cases hwords.symm.trans hbefore
      | parent hbefore => cases hwords.symm.trans hbefore
    exact @Respaced.tag _ [] " for".toList "a in b %\x7dx\x7b% endfor %\x7d".toList '%' ' ' '\n' _
      endsOutside_nil (by decide) rfl (by decide) hfront rfl rfl hfree
  refine ⟨hrespaced, ?_⟩
  rcases parse_respaced .standard "page" _ _ hrespaced with ⟨t, -, ht⟩ | ⟨_, _, _, _, herror, -⟩
  · exact ⟨t, ht⟩
  · cases parse_spaced_loop.symm.trans herror

/-- A loop whose `in` does not stand between two spaces is not read. -/
theorem parse_unspaced_loop {pieces : List Piece} (hcut : Piece.cut content.toList = .ok pieces) {tag : Tag}
    (htag : .tag tag ∈ pieces) (hkind : tag.kind = .statement)
    (hword : Part.keyword tag.inner = "for".toList) (hin : ¬" in ".toList <:+: tag.inner) :
    ∃ line fault, parse options name content = .error (.invalidSyntax name line fault) := by
  refine (parse_cases options name content).resolve_left ?_
  rintro ⟨t, hparse⟩
  have hchars : parseChars options name content.toList = .ok t := by
    unfold parse at hparse
    split at hparse
    · cases hparse
    · next heq => rw [heq, Except.ok.inj hparse]
  obtain ⟨q, hrun, -⟩ := (parseChars_eq_ok_iff hcut).mp hchars
  obtain ⟨p, p', hstep⟩ := exists_step_of_mem hrun (mem_applyFrom hkind htag)
  obtain ⟨st, passed, hsays, -⟩ := step_statement_iff.mp hstep
  have hfor : st.keyword = "for" :=
    String.toList_inj.mp ((Statement.says_iff.mp hsays).1.symm.trans hword)
  obtain ⟨tail, hsource, -, harg⟩ := hsays
  obtain ⟨l, r, -, -, htail⟩ := Text.exists_trim tail
  generalize Text.trim tail = s at harg htail
  cases harg with
  | @loop target items blank source =>
      refine hin ⟨"for".toList ++ l ++ target.toList ++ blank, source ++ r, ?_⟩
      rw [hsource, htail, hfor]
      simp
  | _ => exact absurd hfor (by simp [Statement.keyword])

/-- With a tab in the place of the space before its `in`, a loop is not read any more. -/
theorem parse_loop_tab :
    Respaced (fun _ _ _ => True) "\x7b% for a in b %\x7dx\x7b% endfor %\x7d".toList
      "\x7b% for a\tin b %\x7dx\x7b% endfor %\x7d".toList ∧
    ¬ReadAlike .standard "page" "\x7b% for a in b %\x7dx\x7b% endfor %\x7d"
      "\x7b% for a\tin b %\x7dx\x7b% endfor %\x7d" := by
  refine ⟨?_, ?_⟩
  · have hfront : Piece.StaysOpen .statement " for a".toList :=
      Piece.staysOpen_of_not_mem (by decide) (by decide)
    exact @Respaced.tag _ [] " for a".toList "in b %\x7dx\x7b% endfor %\x7d".toList '%' ' ' '\t' _
      endsOutside_nil (by decide) rfl (by decide) hfront rfl rfl trivial
  · have hcut : Piece.cut "\x7b% for a\tin b %\x7dx\x7b% endfor %\x7d".toList =
        .ok [.tag ⟨.statement, "for a\tin b".toList, 1, .plain, .plain⟩, .text ['x'],
          .tag ⟨.statement, "endfor".toList, 1, .plain, .plain⟩] := by
      refine @Piece.cut_of_cutWithin 3 _ _ ?_
      decide +kernel
    obtain ⟨line, fault, htab⟩ : ∃ line fault, parse .standard "page"
        "\x7b% for a\tin b %\x7dx\x7b% endfor %\x7d" = .error (.invalidSyntax "page" line fault) :=
      parse_unspaced_loop hcut List.mem_cons_self rfl (by decide) (by decide +kernel)
    rintro (⟨t, -, ht⟩ | ⟨_, _, _, _, herror, -⟩)
    · cases htab.symm.trans ht
    · cases parse_spaced_loop.symm.trans herror

end

end ClassScribe.Template
