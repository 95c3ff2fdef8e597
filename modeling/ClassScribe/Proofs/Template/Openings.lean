import ClassScribe.Proofs.Template.RawSection
import ClassScribe.Template.Opening

/-! # Where tags open

What a source starts with does not depend on what stands behind it (`exists_front`). So what stands before the
opening of a tag is cut into the pieces before the tag, and the tag carries the line of its opening
(`exists_opening_of_tag`); a source that cannot be cut fails at the line of an opening too
(`exists_opening_of_fault`). -/

namespace ClassScribe.Template.Piece

/-! ### The front of a source -/

section
variable {s before body inside rest raw after : List Char} {kind : TagKind} {close : Char} {quoted : Bool}
  {quote : Option Char} {left right : Marker} {pieces : Nat → List Piece}

/-- The text before the first opening of a tag has none in it, and does not end with a brace. -/
theorem spanText_front (h : spanText s = (before, some (kind, body))) :
    ∃ o, opens? o = some kind ∧ s = before ++ '\x7b' :: o :: body ∧ (spanText before).2 = none ∧
      before.getLast? ≠ some '\x7b' ∧
      ∀ x, spanText (before ++ '\x7b' :: o :: x) = (before, some (kind, x)) := by
  fun_induction spanText s generalizing before with
  | case1 => cases h
  | case2 c => cases h
  | case3 c d rest kind hopens =>
      cases h
      by_cases hc : c = '\x7b'
      · rw [if_pos hc] at hopens
        subst hc
        exact ⟨d, hopens, rfl, rfl, by simp, spanText_tag hopens⟩
      · rw [if_neg hc] at hopens
        cases hopens
  | case4 c d rest hopens tail found heq ih =>
      cases h
      obtain ⟨o, ho, hs, hnone, hlast, hspan⟩ := ih heq
      cases tail with
      | nil =>
          obtain ⟨rfl, -⟩ := List.cons.inj hs
          refine ⟨o, ho, by rw [hs]; rfl, rfl, fun hc => ?_, fun x => ?_⟩
          · obtain rfl : c = '\x7b' := by simpa using hc
            cases hopens
          · show spanText (c :: '\x7b' :: o :: x) = _
            rw [spanText, hopens]
            dsimp only
            rw [spanText_tag ho]
      | cons e tail =>
          obtain ⟨rfl, -⟩ := List.cons.inj hs
          refine ⟨o, ho, by rw [hs]; rfl, ?_, by rwa [List.getLast?_cons_cons], fun x => ?_⟩
          · rw [spanText, hopens]
            exact hnone
          · show spanText (c :: d :: (tail ++ '\x7b' :: o :: x)) = _
            rw [spanText, hopens]
            dsimp only
            rw [← List.cons_append, hspan x]

theorem spanInner_front (h : spanInner close quoted quote s = some (inside, rest)) (x : List Char) :
    spanInner close quoted quote (inside ++ close :: '\x7d' :: x) = some (inside, x) := by
  fun_induction spanInner close quoted quote s generalizing inside rest with
  | case1 => cases h
  | case2 => cases h
  | case3 q d tail ih =>
      obtain ⟨⟨inside, rest⟩, hspan, heq⟩ := Option.map_eq_some_iff.mp h
      cases heq
      rw [List.cons_append, List.cons_append, spanInner, if_pos rfl, ih hspan]
      rfl
  | case4 c tail q hc ih =>
      obtain ⟨⟨inside, rest⟩, hspan, heq⟩ := Option.map_eq_some_iff.mp h
      cases heq
      rw [List.cons_append, spanInner.eq_def]
      dsimp only
      rw [if_neg hc, ih hspan]
      rfl
  | case5 c tail hc ih =>
      obtain ⟨⟨inside, rest⟩, hspan, heq⟩ := Option.map_eq_some_iff.mp h
      cases heq
      rw [List.cons_append, spanInner, if_pos hc, ih hspan]
      rfl
  | case6 c tail hc tail' htail =>
      cases h
      by_cases hclose : c = close
      · rw [hclose] at hc
        rw [List.nil_append, spanInner, if_neg hc, if_pos rfl]
        rfl
      · rw [if_neg hclose] at htail
        cases htail
  | case7 c tail hc hnot ih =>
      obtain ⟨⟨inside, rest⟩, hspan, heq⟩ := Option.map_eq_some_iff.mp h
      cases heq
      have htail := eq_of_spanInner hspan
      rw [List.cons_append, spanInner, if_neg hc]
      split
      · next tail' htail' =>
          by_cases hclose : c = close
          · rw [if_pos hclose] at htail' hnot
            cases inside with
            | nil =>
                obtain ⟨hbrace, -⟩ := List.cons.inj htail'
                rw [htail, hbrace] at hnot
                exact absurd rfl (hnot _)
            | cons d inside =>
                obtain ⟨hbrace, -⟩ := List.cons.inj htail'
                rw [htail, hbrace] at hnot
                exact absurd rfl (hnot _)
          · rw [if_neg hclose] at htail'
            cases htail'
      · rw [ih hspan]
        rfl

theorem spanRaw_front (h : spanRaw s = some (raw, left, right, after)) :
    ∃ front, s = front ++ after ∧ ∀ x, spanRaw (front ++ x) = some (raw, left, right, x) := by
  fun_induction spanRaw s generalizing raw left right after with
  | case1 tail _ _ after hread =>
      cases h
      obtain ⟨tag, htag, rfl⟩ := exists_endrawTag hread
      obtain ⟨left', right', hread'⟩ := exists_readEndraw? htag
      cases (hread' after).symm.trans hread
      refine ⟨'\x7b' :: '%' :: tag, rfl, fun x => ?_⟩
      show spanRaw ('\x7b' :: '%' :: (tag ++ x)) = _
      rw [spanRaw, hread']
  | case2 tail hread ih =>
      obtain ⟨⟨raw, left, right, after⟩, hspan, heq⟩ := Option.map_eq_some_iff.mp h
      cases heq
      obtain ⟨front, rfl, hfront⟩ := ih hspan
      have hmem : '\x7b' ∈ front := by
        have hnil := hfront []
        rw [List.append_nil] at hnil
        exact mem_of_spanRaw hnil
      have hnone : readEndraw? front = none := by
        cases hfound : readEndraw? front with
        | none => rfl
        | some found =>
            rw [readEndraw?_append hfound] at hread
            cases hread
      refine ⟨'\x7b' :: '%' :: front, rfl, fun x => ?_⟩
      show spanRaw ('\x7b' :: '%' :: (front ++ x)) = _
      rw [spanRaw, readEndraw?_append_eq_none hnone hmem, hfront]
      rfl
  | case3 c tail hc ih =>
      obtain ⟨⟨raw, left, right, after⟩, hspan, heq⟩ := Option.map_eq_some_iff.mp h
      cases heq
      obtain ⟨front, rfl, hfront⟩ := ih hspan
      refine ⟨c :: front, rfl, fun x => ?_⟩
      rw [List.cons_append, spanRaw_cons ?_, hfront]
      · rfl
      · intro r hr
        obtain ⟨rfl, htail⟩ := List.cons.inj hr
        cases front with
        | nil =>
            have hnil := hfront []
            rw [List.append_nil] at hnil
            cases hnil
        | cons d front =>
            obtain ⟨rfl, -⟩ := List.cons.inj htail
            exact hc _ rfl rfl
  | case4 => cases h

theorem Lead.ofTag_front (h : Lead.ofTag kind body inside rest = .tags pieces after) :
    ∃ front, rest = front ++ after ∧ (∀ c ∈ front.getLast?, c = '\x7d') ∧
      ∀ body', ∃ pieces', Lead.ofTag kind body' inside front = .tags pieces' [] := by
  unfold Lead.ofTag at h
  dsimp only at h
  split_ifs at h with hend hraw
  · cases hspan : spanRaw rest with
    | none =>
        rw [hspan] at h
        cases h
    | some found =>
        obtain ⟨raw, left, right, tail⟩ := found
        rw [hspan] at h
        cases h
        obtain ⟨front, rfl, hfront⟩ := spanRaw_front hspan
        have hnil := hfront []
        rw [List.append_nil] at hnil
        obtain ⟨l, hl⟩ := eq_of_spanRaw hnil
        refine ⟨front, rfl, fun c hc => ?_, fun body' => ?_⟩
        · rw [hl, List.getLast?_concat] at hc
          exact (Option.some.inj hc).symm
        · unfold Lead.ofTag
          dsimp only
          rw [if_neg hend, if_pos hraw, hnil]
          exact ⟨_, rfl⟩
  · cases h
    refine ⟨[], rfl, nofun, fun body' => ?_⟩
    unfold Lead.ofTag
    dsimp only
    rw [if_neg hend, if_neg hraw]
    exact ⟨_, rfl⟩

theorem leadMarker_front (h : (leadMarker body).2 = inside ++ close :: '\x7d' :: rest) :
    ∃ tag : List Char, body = tag ++ rest ∧ tag.getLast? = some '\x7d' ∧
      ∀ x, (leadMarker (tag ++ x)).2 = inside ++ close :: '\x7d' :: x := by
  obtain ⟨marker, -, hmarker⟩ := exists_leadMarker body
  have htag : body = marker ++ (inside ++ [close, '\x7d']) ++ rest := by
    rw [hmarker, h]
    simp
  have hne : marker ++ (inside ++ [close, '\x7d']) ≠ [] := by simp
  refine ⟨_, htag, by simp [List.getLast?_append], fun x => ?_⟩
  rw [htag, leadMarker_append hne] at h
  have hinside : (leadMarker (marker ++ (inside ++ [close, '\x7d']))).2 = inside ++ [close, '\x7d'] :=
    List.append_cancel_right (h.trans (by simp))
  rw [leadMarker_append hne, hinside]
  simp

/-- What a source starts with comes from the first opening in it. -/
theorem exists_of_lead {found : Lead} (h : lead s = some found) : ∃ kind body,
    (spanText s).2 = some (kind, body) ∧
    ((∃ close, found = .fault body (.unclosedTag close)) ∨ ∃ inside tail,
      spanInner (closer kind) (kind != .comment) none (leadMarker body).2 = some (inside, tail) ∧
      Lead.ofTag kind body inside tail = found) := by
  unfold lead at h
  split at h
  · cases h
  · next kind body hs =>
      refine ⟨kind, body, hs, ?_⟩
      split at h
      · exact .inl ⟨_, (Option.some.inj h).symm⟩
      · next inside tail hi => exact .inr ⟨inside, tail, hi, Option.some.inj h⟩

/-- A source that starts with a tag, or raw section, starts with one whatever stands behind that. -/
theorem exists_front (h : lead s = some (.tags pieces rest)) :
    ∃ front pieces', s = front ++ rest ∧ front.getLast? = some '\x7d' ∧
      lead front = some (.tags pieces' []) := by
  obtain ⟨kind, body, hs, ⟨close, hfault⟩ | ⟨inside, tail, hi, htag⟩⟩ := exists_of_lead h
  · cases hfault
  obtain ⟨o, ho, hsource, -, -, hspan⟩ := spanText_front (Prod.ext rfl hs)
  obtain ⟨tag, hbody, htaglast, hmarker⟩ := leadMarker_front (eq_of_spanInner hi)
  obtain ⟨front, hfront, hlast, hlead⟩ := Lead.ofTag_front htag
  obtain ⟨pieces', hpieces⟩ := hlead (tag ++ front)
  refine ⟨(spanText s).1 ++ '\x7b' :: o :: (tag ++ front), pieces', ?_, ?_, ?_⟩
  · conv_lhs => rw [hsource, hbody, hfront]
    simp
  · have hend : (tag ++ front).getLast? = some '\x7d' := by
      rw [List.getLast?_append, htaglast]
      cases hfrontlast : front.getLast? with
      | none => rfl
      | some c => rw [hlast c hfrontlast, Option.some_or]
    simp only [List.getLast?_append, List.getLast?_cons, hend]
    rfl
  · rw [lead_eq_ofTag (hspan _) (by rw [hmarker]; exact spanInner_front hi front), hpieces]

theorem Lead.ofTag_kinds (h : Lead.ofTag kind body inside rest = .tags pieces after) (total : Nat) :
    (∃ t : Tag, pieces total = [.tag t] ∧ t.kind = kind ∧ t.line = lineOf total body) ∨
      ∀ t : Tag, .tag t ∈ pieces total → t.kind = .comment := by
  unfold Lead.ofTag at h
  dsimp only at h
  split_ifs at h
  · cases hspan : spanRaw rest with
    | none =>
        rw [hspan] at h
        cases h
    | some found =>
        obtain ⟨raw, left, right, tail⟩ := found
        rw [hspan] at h
        cases h
        refine .inr fun t ht => ?_
        have htext : .tag t ∉ textPiece raw := by
          unfold textPiece
          split <;> simp
        simp only [List.cons_append, List.mem_cons, List.mem_append, htext, List.not_mem_nil, or_false,
          false_or, Piece.tag.injEq] at ht
        rcases ht with rfl | rfl <;> rfl
  · cases h
    exact .inl ⟨_, rfl, rfl, rfl⟩

end

/-! ### Openings -/

/-- The opening of a tag of a kind in what is left of a source, where some line feeds came earlier: what stands
before it there, the pieces of that, and its line. -/
structure OpensFrom (earlier : Nat) (s above : List Char) (kind : TagKind) (before : List Piece) (line : Nat) :
    Prop where
  cut : cutFrom (earlier + Text.lineFeeds above) above = .ok before
  free : above.getLast? ≠ some '\x7b'
  opening : ∃ o body, opens? o = some kind ∧ s = above ++ '\x7b' :: o :: body
  line_eq : line = earlier + 1 + Text.lineFeeds above

section
variable {s t above rest : List Char} {kind : TagKind} {before after : List Piece}
  {front : Nat → List Piece} {earlier line : Nat} {fault : CutFault} {tag : Tag}

theorem opensFrom_first {body : List Char} (h : spanText s = (t, some (kind, body))) (earlier : Nat) :
    OpensFrom earlier s t kind (textPiece t) (lineOf (earlier + Text.lineFeeds s) body) := by
  obtain ⟨o, ho, hsource, hnone, hlast, -⟩ := spanText_front h
  have hlead : lead t = none := by simp only [lead, hnone]
  have htext : (spanText t).1 = t := eq_of_spanText_none (Prod.ext rfl hnone)
  refine ⟨?_, hlast, ⟨o, body, ho, hsource⟩, ?_⟩
  · rw [cutFrom_eq, tagsFrom, hlead, htext]
    exact congrArg Except.ok (List.append_nil _)
  · have hbrace : Text.lineFeeds ('\x7b' :: o :: body) = Text.lineFeeds body := by
      have hfeed : o ≠ '\n' := by
        rintro rfl
        cases ho
      simp [Text.lineFeeds, hfeed]
    rw [lineOf, hsource, lineFeeds_append, hbrace]
    omega

theorem exists_opensFrom_behind (hlead : lead s = some (.tags front rest)) :
    ∃ more, Text.lineFeeds s = more + Text.lineFeeds rest ∧ ∀ earlier above kind before line,
      OpensFrom (earlier + more) rest above kind before line → ∃ above', OpensFrom earlier s above' kind
        (textPiece (spanText s).1 ++ front (earlier + Text.lineFeeds s) ++ before) line := by
  obtain ⟨first, pieces, rfl, hlast, hfirst⟩ := exists_front hlead
  have hspan : (spanText (first ++ rest)).1 = (spanText first).1 ∧
      ∀ total, front (total + Text.lineFeeds rest) = pieces total := by
    obtain ⟨kind, body, inside, tail, hclosed, htag⟩ := closed_of_lead hfirst
    obtain ⟨pieces', htag', hpieces⟩ := Lead.ofTag_append htag hclosed.ne_nil rest
    have heq := hlead.symm.trans (hclosed.append rest).2
    rw [htag'] at heq
    cases heq
    exact ⟨(hclosed.append rest).1, hpieces⟩
  refine ⟨Text.lineFeeds first, lineFeeds_append first rest, fun earlier above kind before line h => ?_⟩
  obtain ⟨o, body, ho, hrest⟩ := h.opening
  refine ⟨first ++ above, ?_, ?_, ⟨o, body, ho, by rw [hrest, List.append_assoc]⟩, ?_⟩
  · rw [lineFeeds_append, ← Nat.add_assoc, cutFrom_append_of_lead hfirst, List.nil_append, h.cut, hspan.1,
      lineFeeds_append, ← Nat.add_assoc, hspan.2]
    rfl
  · cases habove : above.getLast? with
    | none =>
        rw [List.getLast?_append, habove, hlast]
        exact fun h => absurd (Option.some.inj h) (by decide)
    | some c =>
        rw [List.getLast?_append, habove, Option.some_or, ← habove]
        exact h.free
  · rw [lineFeeds_append, h.line_eq]
    omega

theorem append_eq_append_cons {α : Type} {xs ys us vs : List α} {a : α} (h : xs ++ ys = us ++ a :: vs) :
    (∃ ws, xs = us ++ a :: ws) ∨ ∃ ws, us = xs ++ ws ∧ ys = ws ++ a :: vs := by
  obtain ⟨ws, hus, hys⟩ | ⟨ws, hxs, hvs⟩ := List.append_eq_append_iff.mp h
  · exact .inr ⟨ws, hus, hys⟩
  · cases ws with
    | nil => exact .inr ⟨[], by rw [hxs, List.append_nil, List.append_nil], hvs.symm⟩
    | cons b ws =>
        obtain ⟨rfl, -⟩ := List.cons.inj hvs
        exact .inl ⟨ws, hxs⟩

theorem tag_not_mem_textPiece (tag : Tag) (t : List Char) : .tag tag ∉ textPiece t := by
  unfold textPiece
  split <;> simp

/-- A tag at the front of a source that is no comment stands first there. -/
theorem exists_body_of_tag {total : Nat} (hlead : lead s = some (.tags front rest))
    (htag : front total = before ++ .tag tag :: after) (hkind : tag.kind ≠ .comment) :
    before = [] ∧ ∃ body, (spanText s).2 = some (tag.kind, body) ∧ tag.line = lineOf total body := by
  obtain ⟨kind, body, hs, ⟨close, hfault⟩ | ⟨inside, tail, hi, hfound⟩⟩ := exists_of_lead hlead
  · cases hfault
  rcases Lead.ofTag_kinds hfound total with ⟨t, hfront, rfl, hline⟩ | hcomments
  · rw [hfront] at htag
    cases before with
    | nil =>
        cases htag
        exact ⟨rfl, body, hs, hline⟩
    | cons piece before =>
        obtain ⟨-, hnil⟩ := List.cons.inj htag
        exact absurd hnil (by simp)
  · exact absurd (hcomments tag (htag ▸ by simp)) hkind

theorem exists_kind_of_fault {body : List Char} (hlead : lead s = some (.fault body fault)) :
    ∃ kind, (spanText s).2 = some (kind, body) := by
  obtain ⟨kind, body', hs, ⟨close, hfault⟩ | ⟨inside, tail, hi, hfound⟩⟩ := exists_of_lead hlead
  · cases hfault
    exact ⟨kind, hs⟩
  refine ⟨kind, ?_⟩
  unfold Lead.ofTag at hfound
  dsimp only at hfound
  split_ifs at hfound
  · cases hfound
    exact hs
  · cases hspan : spanRaw tail with
    | none =>
        rw [hspan] at hfound
        cases hfound
        exact hs
    | some found =>
        rw [hspan] at hfound
        cases hfound

/-- A tag that is no comment carries the line of its opening, and what stands before that is cut into the pieces
before the tag. The recursion is on what stands behind the first tag. -/
theorem exists_opening_of_tag {earlier : Nat} {s : List Char} {pieces before : List Piece}
    (h : cutFrom (earlier + Text.lineFeeds s) s = .ok pieces)
    (hpieces : pieces = before ++ .tag tag :: after) (hkind : tag.kind ≠ .comment) :
    ∃ above, OpensFrom earlier s above tag.kind before tag.line := by
  rw [cutFrom_eq] at h
  obtain ⟨tags, htags, rfl⟩ := map_eq_ok.mp h
  unfold tagsFrom at htags
  cases hlead : lead s with
  | none =>
      rw [hlead] at htags
      cases htags
      have hmem : .tag tag ∈ textPiece (spanText s).1 ++ [] := hpieces ▸ by simp
      exact absurd (List.append_nil _ ▸ hmem) (tag_not_mem_textPiece tag _)
  | some found =>
    cases found with
    | fault _ _ =>
        rw [hlead] at htags
        cases htags
    | tags front rest =>
        rw [hlead] at htags
        obtain ⟨more, hmore, rfl⟩ := map_eq_ok.mp htags
        rw [← List.append_assoc] at hpieces
        obtain ⟨ws, hfront⟩ | ⟨ws, hbefore, hrest⟩ := append_eq_append_cons hpieces
        · -- The tag is the first one.
          obtain ⟨ws', htext⟩ | ⟨ws', hbefore, hfront⟩ := append_eq_append_cons hfront
          · exact absurd (htext ▸ by simp) (tag_not_mem_textPiece tag (spanText s).1)
          · obtain ⟨rfl, body, hspan, hline⟩ := exists_body_of_tag hlead hfront hkind
            rw [hbefore, List.append_nil, hline]
            exact ⟨_, opensFrom_first (Prod.ext rfl hspan) earlier⟩
        · -- The tag is one of the others.
          obtain ⟨n, hn, hbehind⟩ := exists_opensFrom_behind hlead
          rw [hn, ← Nat.add_assoc] at hmore
          obtain ⟨above, habove⟩ := exists_opening_of_tag hmore hrest hkind
          obtain ⟨above', habove'⟩ := hbehind _ _ _ _ _ habove
          exact ⟨above', hbefore ▸ habove'⟩
termination_by s.length
decreasing_by exact length_of_lead hlead

/-- A source that cannot be cut fails at the line of the opening of a tag. -/
theorem exists_opening_of_fault {earlier : Nat} {s : List Char}
    (h : cutFrom (earlier + Text.lineFeeds s) s = .error (line, fault)) :
    ∃ above kind before, OpensFrom earlier s above kind before line := by
  rw [cutFrom_eq] at h
  have htags := map_eq_error.mp h
  unfold tagsFrom at htags
  cases hlead : lead s with
  | none =>
      rw [hlead] at htags
      cases htags
  | some found =>
    cases found with
    | fault after fault =>
        rw [hlead] at htags
        cases htags
        obtain ⟨kind, hspan⟩ := exists_kind_of_fault hlead
        exact ⟨_, kind, _, opensFrom_first (Prod.ext rfl hspan) earlier⟩
    | tags front rest =>
        rw [hlead] at htags
        obtain ⟨n, hn, hbehind⟩ := exists_opensFrom_behind hlead
        have hmore := map_eq_error.mp htags
        rw [hn, ← Nat.add_assoc] at hmore
        obtain ⟨above, kind, before, habove⟩ := exists_opening_of_fault hmore
        obtain ⟨above', habove'⟩ := hbehind _ _ _ _ _ habove
        exact ⟨above', kind, _, habove'⟩
termination_by s.length
decreasing_by exact length_of_lead hlead

end

end ClassScribe.Template.Piece
