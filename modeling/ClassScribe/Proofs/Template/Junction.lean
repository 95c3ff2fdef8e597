import ClassScribe.Proofs.Outcome
import ClassScribe.Proofs.Template.Lexing

/-! # Sources in a row

A source is cut from the front to the back, and what has been cut stays as it is when more text follows
(`lead_append`). So a source that ends outside of tags is cut as far as its last text, and the rest together
with what follows (`cutFrom_append`). A text without the opening of a tag goes to the text behind it
(`cutFrom_of_passes`). The line of a tag is all that depends on where it stands (`cutFrom_sameButLines`). -/

namespace ClassScribe.Template.Piece

/-! ### Texts before tags -/

section
variable {s t before body : List Char} {kind : TagKind}

/-- A text that is passed over in the search for the opening of a tag. -/
def Passes (s : List Char) : Prop :=
  ∀ rest, spanText (s ++ rest) = (s ++ (spanText rest).1, (spanText rest).2)

theorem passes_nil : Passes [] := fun _ => rfl

theorem Passes.append (hs : Passes s) (ht : Passes t) : Passes (s ++ t) := by
  intro rest
  rw [List.append_assoc, hs, ht, List.append_assoc]

theorem passes_char {c : Char} (hc : c ≠ '\x7b') : Passes [c] := by
  intro rest
  cases rest with
  | nil => rfl
  | cons d rest =>
      show spanText (c :: d :: rest) = _
      rw [spanText, if_neg hc]
      rfl

theorem passes_of_not_mem (h : '\x7b' ∉ s) : Passes s := by
  induction s with
  | nil => exact passes_nil
  | cons c s ih =>
      rw [List.mem_cons, not_or] at h
      exact (passes_char (Ne.symm h.1)).append (ih h.2)

theorem eq_of_spanText_none (h : spanText s = (before, none)) : before = s := by
  fun_induction spanText s generalizing before with
  | case1 =>
      cases h
      rfl
  | case2 c =>
      cases h
      rfl
  | case3 c d rest kind _ => cases h
  | case4 c d rest _ s found heq ih =>
      cases h
      rw [ih heq]

/-- A text without the opening of a tag is passed over, unless its last character opens a tag with what
follows. -/
theorem passes_of_spanText_none (h : (spanText s).2 = none) (hlast : s.getLast? ≠ some '\x7b') :
    Passes s := by
  fun_induction spanText s with
  | case1 => exact passes_nil
  | case2 c => exact passes_char fun hc => hlast (by rw [hc]; rfl)
  | case3 c d rest kind _ => cases h
  | case4 c d rest hopens s found heq ih =>
      rw [heq] at ih
      have hmore : Passes (d :: rest) := ih h (by rwa [List.getLast?_cons_cons] at hlast)
      intro more
      have hspan : spanText (c :: d :: (rest ++ more)) =
          (c :: (spanText (d :: (rest ++ more))).1, (spanText (d :: (rest ++ more))).2) := by
        rw [spanText, hopens]
      exact hspan.trans (by rw [← List.cons_append, hmore]; rfl)

theorem spanText_append (h : spanText s = (before, some (kind, body))) (rest : List Char) :
    spanText (s ++ rest) = (before, some (kind, body ++ rest)) := by
  fun_induction spanText s generalizing before with
  | case1 => cases h
  | case2 c => cases h
  | case3 c d more kind hopens =>
      cases h
      show spanText (c :: d :: (body ++ rest)) = _
      rw [spanText, hopens]
  | case4 c d more hopens s found heq ih =>
      cases h
      show spanText (c :: d :: (more ++ rest)) = _
      rw [spanText, hopens]
      dsimp only
      rw [← List.cons_append, ih heq]

theorem eq_of_spanText_some (h : spanText s = (before, some (kind, body))) :
    ∃ opening, s = before ++ opening ++ body := by
  fun_induction spanText s generalizing before with
  | case1 => cases h
  | case2 c => cases h
  | case3 c d more kind hopens =>
      cases h
      exact ⟨[c, d], rfl⟩
  | case4 c d more hopens s found heq ih =>
      cases h
      obtain ⟨opening, hmore⟩ := ih heq
      exact ⟨opening, by rw [hmore]; rfl⟩

end

/-! ### Insides of tags -/

section
variable {s inside rest : List Char} {close : Char} {quoted : Bool} {quote : Option Char}

theorem spanInner_append (h : spanInner close quoted quote s = some (inside, rest)) (more : List Char) :
    spanInner close quoted quote (s ++ more) = some (inside, rest ++ more) := by
  fun_induction spanInner close quoted quote s generalizing inside rest with
  | case1 => cases h
  | case2 => cases h
  | case3 q d tail ih =>
      obtain ⟨⟨inside, rest⟩, hspan, heq⟩ := Option.map_eq_some_iff.mp h
      cases heq
      rw [List.cons_append, List.cons_append, spanInner, if_pos rfl, ih hspan]
      rfl
  | case4 c tail q hc ih =>
      obtain ⟨⟨inside, rest⟩, hspan, heq⟩ := Option.map_eq_some_iff.mp h
      cases heq
      rw [List.cons_append, spanInner.eq_def]
      dsimp only
      rw [if_neg hc, ih hspan]
      rfl
  | case5 c tail hc ih =>
      obtain ⟨⟨inside, rest⟩, hspan, heq⟩ := Option.map_eq_some_iff.mp h
      cases heq
      rw [List.cons_append, spanInner, if_pos hc, ih hspan]
      rfl
  | case6 c tail hc tail' htail =>
      cases h
      by_cases hclose : c = close
      · rw [if_pos hclose] at htail
        rw [List.cons_append, spanInner, if_neg hc, if_pos hclose, htail]
        rfl
      · rw [if_neg hclose] at htail
        cases htail
  | case7 c tail hc hnot ih =>
      obtain ⟨⟨inside, rest⟩, hspan, heq⟩ := Option.map_eq_some_iff.mp h
      cases heq
      rw [List.cons_append, spanInner, if_neg hc]
      split
      · next tail' htail =>
          by_cases hclose : c = close
          · rw [if_pos hclose] at htail hnot
            cases tail with
            | nil => cases hspan
            | cons d tail =>
                cases htail
                exact absurd rfl (hnot tail)
          · rw [if_neg hclose] at htail
            cases htail
      · rw [ih hspan]
        rfl

theorem leadMarker_append (h : s ≠ []) (more : List Char) :
    leadMarker (s ++ more) = ((leadMarker s).1, (leadMarker s).2 ++ more) := by
  cases s with
  | nil => exact absurd rfl h
  | cons c s =>
      by_cases hminus : c = '-'
      · rw [hminus]
        rfl
      · by_cases hplus : c = '+'
        · rw [hplus]
          rfl
        · unfold leadMarker
          simp [hminus, hplus]

end

/-! ### Raw sections -/

section
variable {s raw rest : List Char} {left right : Marker}

theorem readEndraw?_append (h : readEndraw? s = some (left, right, rest)) (more : List Char) :
    readEndraw? (s ++ more) = some (left, right, rest ++ more) := by
  obtain ⟨tag, htag, rfl⟩ := exists_endrawTag h
  obtain ⟨left', right', hread⟩ := exists_readEndraw? htag
  cases (hread rest).symm.trans h
  rw [List.append_assoc, hread]

/-- What is no end tag does not become one with more text, if another tag is opened before that. -/
theorem readEndraw?_append_eq_none (h : readEndraw? s = none) (hmem : '\x7b' ∈ s) (more : List Char) :
    readEndraw? (s ++ more) = none := by
  cases hread : readEndraw? (s ++ more) with
  | none => rfl
  | some found =>
      obtain ⟨left, right, after⟩ := found
      obtain ⟨tag, htag, heq⟩ := exists_endrawTag hread
      obtain ⟨left', right', htagRead⟩ := exists_readEndraw? htag
      rcases List.append_eq_append_iff.mp heq with ⟨k, hk, -⟩ | ⟨k, hk, -⟩
      · exact absurd (hk ▸ List.mem_append_left k hmem) (not_mem_endrawTag htag)
      · rw [hk, htagRead] at h
        cases h

theorem mem_of_spanRaw (h : spanRaw s = some (raw, left, right, rest)) : '\x7b' ∈ s := by
  fun_induction spanRaw s generalizing raw left right rest with
  | case1 => exact List.mem_cons_self
  | case2 => exact List.mem_cons_self
  | case3 c tail _ ih =>
      obtain ⟨⟨raw, left, right, rest⟩, hspan, -⟩ := Option.map_eq_some_iff.mp h
      exact List.mem_cons_of_mem c (ih hspan)
  | case4 => cases h

theorem spanRaw_more (h : spanRaw s = some (raw, left, right, rest)) (more : List Char) :
    spanRaw (s ++ more) = some (raw, left, right, rest ++ more) := by
  fun_induction spanRaw s generalizing raw left right rest with
  | case1 tail _ _ after hread =>
      cases h
      show spanRaw ('\x7b' :: '%' :: (tail ++ more)) = _
      rw [spanRaw, readEndraw?_append hread]
  | case2 tail hread ih =>
      obtain ⟨⟨raw, left, right, rest⟩, hspan, heq⟩ := Option.map_eq_some_iff.mp h
      cases heq
      show spanRaw ('\x7b' :: '%' :: (tail ++ more)) = _
      rw [spanRaw, readEndraw?_append_eq_none hread (mem_of_spanRaw hspan), ih hspan]
      rfl
  | case3 c tail hc ih =>
      obtain ⟨⟨raw, left, right, rest⟩, hspan, heq⟩ := Option.map_eq_some_iff.mp h
      cases heq
      rw [List.cons_append, spanRaw_cons ?_, ih hspan]
      · rfl
      · intro r hr
        obtain ⟨rfl, htail⟩ := List.cons.inj hr
        cases tail with
        | nil => cases hspan
        | cons d tail =>
            obtain ⟨rfl, -⟩ := List.cons.inj htail
            exact hc tail rfl rfl
  | case4 => cases h

theorem eq_of_spanRaw (h : spanRaw s = some (raw, left, right, rest)) :
    ∃ l, s = l ++ '\x7d' :: rest := by
  fun_induction spanRaw s generalizing raw left right rest with
  | case1 tail _ _ after hread =>
      cases h
      obtain ⟨tag, htag, rfl⟩ := exists_endrawTag hread
      generalize hs : '\x7b' :: '%' :: tag = s at htag
      cases htag with
      | @tag l r blank blank' =>
          refine ⟨"\x7b%".toList ++ (l ++ (blank ++ ("endraw".toList ++ (blank' ++ (r ++ ['%']))))), ?_⟩
          rw [← List.cons_append, ← List.cons_append, hs]
          simp
  | case2 tail hread ih =>
      obtain ⟨⟨raw, left, right, rest⟩, hspan, heq⟩ := Option.map_eq_some_iff.mp h
      cases heq
      obtain ⟨l, hl⟩ := ih hspan
      exact ⟨'\x7b' :: '%' :: l, by rw [hl]; rfl⟩
  | case3 c tail hc ih =>
      obtain ⟨⟨raw, left, right, rest⟩, hspan, heq⟩ := Option.map_eq_some_iff.mp h
      cases heq
      obtain ⟨l, hl⟩ := ih hspan
      exact ⟨c :: l, by rw [hl]; rfl⟩
  | case4 => cases h

end

/-! ### The front of a source -/

/-- What a source starts with behind its first text, if there is more in it than text. -/
inductive Lead
  /-- A fault, behind the opening of a tag. -/
  | fault (after : List Char) (fault : CutFault)
  /-- A tag, or a raw section with its two tags, in a source with some number of line feeds. -/
  | tags (pieces : Nat → List Piece) (rest : List Char)

/-- What a tag with its inside leads to. -/
def Lead.ofTag (kind : TagKind) (body inside rest : List Char) : Lead :=
  let inner := Text.trim (tailMarker inside).2
  let tag (kind : TagKind) (total : Nat) : Piece :=
    .tag ⟨kind, inner, lineOf total body, (leadMarker body).1, (tailMarker inside).1⟩
  if kind = .statement ∧ inner = "endraw".toList then .fault body .strayEndraw
  else if kind = .statement ∧ inner = "raw".toList then
    match spanRaw rest with
    | none => .fault body .unclosedRaw
    | some (raw, left, right, after) =>
      .tags (fun total => tag .comment total :: textPiece raw ++ [.tag
        ⟨.comment, "endraw".toList, lineOf total after, endMarker left, endMarker right⟩]) after
  else .tags (fun total => [tag kind total]) rest

/-- What a source starts with behind its first text, if there is more in it than text. -/
def lead (s : List Char) : Option Lead :=
  match (spanText s).2 with
  | none => none
  | some (kind, body) =>
    match spanInner (closer kind) (kind != .comment) none (leadMarker body).2 with
    | none => some (.fault body (.unclosedTag (String.ofList [closer kind, '\x7d'])))
    | some (inside, rest) => some (.ofTag kind body inside rest)

/-- The pieces of a source behind its first text. -/
def tagsFrom (total : Nat) (s : List Char) : Except (Nat × CutFault) (List Piece) :=
  match lead s with
  | none => .ok []
  | some (.fault after fault) => .error (lineOf total after, fault)
  | some (.tags pieces rest) => (cutFrom total rest).map (pieces total ++ ·)

/-- A source is cut into its first text and the pieces behind it. -/
theorem cutFrom_eq (total : Nat) (s : List Char) :
    cutFrom total s = (tagsFrom total s).map (textPiece (spanText s).1 ++ ·) := by
  fun_cases cutFrom total s with
  | case1 before hs =>
      simp only [tagsFrom, lead, hs, Except.map, List.append_nil]
  | case2 before kind body hs line hi =>
      simp only [tagsFrom, lead, hs, hi, Except.map]
      rfl
  | case3 before kind body hs line inside rest hi right s htail inner hend =>
      simp only [tagsFrom, lead, hs, hi, Lead.ofTag, htail]
      rw [if_pos hend]
      rfl
  | case4 before kind body hs line inside rest hi right s htail inner hend hraw hspan =>
      simp only [tagsFrom, lead, hs, hi, Lead.ofTag, htail]
      rw [if_neg hend, if_pos hraw, hspan]
      rfl
  | case5 before kind body hs line left inside rest hi right s htail inner hend hraw raw _ _ after hspan =>
      simp only [tagsFrom, lead, hs, hi, Lead.ofTag, htail]
      rw [if_neg hend, if_pos hraw, hspan]
      dsimp only
      cases cutFrom total after with
      | error fault => rfl
      | ok more => simp [Except.map, line, left, inner]
  | case6 before kind body hs line left inside rest hi right s htail inner hend hraw =>
      simp only [tagsFrom, lead, hs, hi, Lead.ofTag, htail]
      rw [if_neg hend, if_neg hraw]
      dsimp only
      cases cutFrom total rest with
      | error fault => rfl
      | ok more => rfl

/-! ### Tags and their lines -/

/-- Pieces that are the same but for the lines of tags. -/
inductive SameButLine : Piece → Piece → Prop
  | text (s : List Char) : SameButLine (.text s) (.text s)
  | tag (kind : TagKind) (inner : List Char) (line line' : Nat) (left right : Marker) :
      SameButLine (.tag ⟨kind, inner, line, left, right⟩) (.tag ⟨kind, inner, line', left, right⟩)

/-- Whether pieces start with a tag, if there are any. -/
def StartWithTag (pieces : List Piece) : Prop := ∀ s, pieces.head? ≠ some (.text s)

/-- Whether pieces end with a tag, if there are any. -/
def EndWithTag (pieces : List Piece) : Prop := ∀ s, pieces.getLast? ≠ some (.text s)

theorem startWithTag_cons (t : Tag) (ps : List Piece) : StartWithTag (.tag t :: ps) := nofun

theorem lineOf_append (total : Nat) (after more : List Char) :
    lineOf (total + Text.lineFeeds more) (after ++ more) = lineOf total after := by
  unfold lineOf Text.lineFeeds
  rw [List.count_append]
  omega

theorem forall₂_textPiece (s : List Char) : List.Forall₂ SameButLine (textPiece s) (textPiece s) := by
  unfold textPiece
  split
  · exact .nil
  · exact .cons (.text s) .nil

section
variable {s body inside rest after more : List Char} {kind : TagKind} {pieces : Nat → List Piece}
  {fault : CutFault} {total : Nat}

theorem Lead.ofTag_spec (h : Lead.ofTag kind body inside rest = .tags pieces after) :
    (rest = after ∨ ∃ l, rest = l ++ '\x7d' :: after) ∧
    (∀ total, StartWithTag (pieces total) ∧ pieces total ≠ [] ∧ EndWithTag (pieces total)) ∧
    ∀ total total', List.Forall₂ SameButLine (pieces total) (pieces total') := by
  unfold Lead.ofTag at h
  dsimp only at h
  split_ifs at h
  · cases hspan : spanRaw rest with
    | none =>
        rw [hspan] at h
        cases h
    | some found =>
        obtain ⟨raw, left, right, tail⟩ := found
        rw [hspan] at h
        cases h
        refine ⟨.inr (eq_of_spanRaw hspan), fun total => ⟨nofun, nofun, ?_⟩, fun total total' => ?_⟩
        · intro s hs
          dsimp only at hs
          rw [List.getLast?_concat] at hs
          cases hs
        · exact .cons (.tag ..) (List.rel_append (forall₂_textPiece raw) (.cons (.tag ..) .nil))
  · cases h
    exact ⟨.inl rfl, fun total => ⟨nofun, nofun, nofun⟩, fun total total' => .cons (.tag ..) .nil⟩

theorem Lead.ofTag_append (h : Lead.ofTag kind body inside rest = .tags pieces after) (hbody : body ≠ [])
    (more : List Char) : ∃ pieces', Lead.ofTag kind (body ++ more) inside (rest ++ more) =
      .tags pieces' (after ++ more) ∧ ∀ total, pieces' (total + Text.lineFeeds more) = pieces total := by
  unfold Lead.ofTag at h ⊢
  dsimp only at h ⊢
  rw [leadMarker_append hbody]
  split_ifs at h with hend hraw
  · rw [if_neg hend, if_pos hraw]
    cases hspan : spanRaw rest with
    | none =>
        rw [hspan] at h
        cases h
    | some found =>
        obtain ⟨raw, left, right, tail⟩ := found
        rw [hspan] at h
        cases h
        rw [spanRaw_more hspan]
        refine ⟨_, rfl, fun total => ?_⟩
        simp only [lineOf_append]
  · cases h
    rw [if_neg hend, if_neg hraw]
    refine ⟨_, rfl, fun total => ?_⟩
    simp only [lineOf_append]

theorem Lead.ofTag_stray_append (h : Lead.ofTag kind body inside rest = .fault after .strayEndraw)
    (more : List Char) :
    Lead.ofTag kind (body ++ more) inside (rest ++ more) = .fault (after ++ more) .strayEndraw := by
  unfold Lead.ofTag at h ⊢
  dsimp only at h ⊢
  split_ifs at h with hend hraw
  · cases h
    rw [if_pos hend]
  · cases hspan : spanRaw rest with
    | none =>
        rw [hspan] at h
        cases h
    | some found =>
        rw [hspan] at h
        cases h

end

section
variable {s t after rest : List Char} {pieces : Nat → List Piece} {total : Nat}

theorem lead_eq_ofTag {before body inside : List Char} {kind : TagKind}
    (hs : spanText s = (before, some (kind, body)))
    (hi : spanInner (closer kind) (kind != .comment) none (leadMarker body).2 = some (inside, rest)) :
    lead s = some (.ofTag kind body inside rest) := by
  simp only [lead, hs, hi]

/-- A source with a closed tag, and how the tag stands in it. It stays as it is when more text follows. -/
structure Closed (s : List Char) (kind : TagKind) (body inside rest : List Char) : Prop where
  ne_nil : body ≠ []
  source : ∃ l, s = l ++ '\x7d' :: rest
  lead : lead s = some (.ofTag kind body inside rest)
  append : ∀ more, (spanText (s ++ more)).1 = (spanText s).1 ∧
    Piece.lead (s ++ more) = some (.ofTag kind (body ++ more) inside (rest ++ more))

/-- A source has no tag, or starts with one that is not closed, or with one that is. -/
theorem lead_cases (s : List Char) :
    ((spanText s).2 = none ∧ lead s = none) ∨
    (∃ after close, lead s = some (.fault after (.unclosedTag close))) ∨
    ∃ kind body inside rest, Closed s kind body inside rest := by
  cases hs : spanText s with
  | mk before found =>
      cases found with
      | none => exact .inl ⟨rfl, by simp only [lead, hs]⟩
      | some opening =>
          obtain ⟨kind, body⟩ := opening
          cases hi : spanInner (closer kind) (kind != .comment) none (leadMarker body).2 with
          | none => exact .inr (.inl ⟨body, _, by simp only [lead, hs, hi]; rfl⟩)
          | some found =>
              obtain ⟨inside, rest⟩ := found
              have hbody : body ≠ [] := by
                rintro rfl
                cases hi
              refine .inr (.inr ⟨kind, body, inside, rest, hbody, ?_, lead_eq_ofTag hs hi, fun more => ?_⟩)
              · obtain ⟨opening, hopening⟩ := eq_of_spanText_some hs
                obtain ⟨marker, -, hmarker⟩ := exists_leadMarker body
                rw [eq_of_spanInner hi] at hmarker
                refine ⟨before ++ opening ++ (marker ++ (inside ++ [closer kind])), ?_⟩
                rw [hopening, hmarker]
                simp
              · have hs' := spanText_append hs more
                refine ⟨by rw [hs', hs], lead_eq_ofTag hs' ?_⟩
                rw [leadMarker_append hbody]
                exact spanInner_append hi more

theorem spanText_of_lead_none (h : lead s = none) : (spanText s).2 = none := by
  rcases lead_cases s with ⟨hs, -⟩ | ⟨after, close, hs⟩ | ⟨kind, body, inside, rest, hs⟩
  · exact hs
  · cases hs.symm.trans h
  · cases hs.lead.symm.trans h

theorem closed_of_lead (h : lead s = some (.tags pieces rest)) :
    ∃ kind body inside tail, Closed s kind body inside tail ∧
      Lead.ofTag kind body inside tail = .tags pieces rest := by
  rcases lead_cases s with ⟨-, hs⟩ | ⟨after, close, hs⟩ | ⟨kind, body, inside, tail, hs⟩
  · cases hs.symm.trans h
  · cases hs.symm.trans h
  · exact ⟨kind, body, inside, tail, hs, Option.some.inj (hs.lead.symm.trans h)⟩

theorem lead_spec (h : lead s = some (.tags pieces rest)) :
    (∃ l, s = l ++ '\x7d' :: rest) ∧
    (∀ total, StartWithTag (pieces total) ∧ pieces total ≠ [] ∧ EndWithTag (pieces total)) ∧
    ∀ total total', List.Forall₂ SameButLine (pieces total) (pieces total') := by
  obtain ⟨kind, body, inside, tail, hs, htag⟩ := closed_of_lead h
  obtain ⟨hrest, hends, hlines⟩ := Lead.ofTag_spec htag
  obtain ⟨l, hl⟩ := hs.source
  refine ⟨?_, hends, hlines⟩
  rcases hrest with rfl | ⟨l', rfl⟩
  · exact ⟨l, hl⟩
  · exact ⟨l ++ '\x7d' :: l', by rw [hl]; simp⟩

theorem length_of_lead (h : lead s = some (.tags pieces rest)) : rest.length < s.length := by
  obtain ⟨⟨l, rfl⟩, -⟩ := lead_spec h
  rw [List.length_append, List.length_cons]
  omega

/-- Tags differ in nothing but their lines, wherever a source stands in a whole one. -/
theorem tagsFrom_sameButLines (total total' : Nat) (s : List Char) :
    Alike (fun e e' => e.2 = e'.2) (List.Forall₂ SameButLine) (tagsFrom total s) (tagsFrom total' s) := by
  unfold tagsFrom
  cases hlead : lead s with
  | none => exact .ok .nil
  | some front =>
    cases front with
    | fault after fault => exact .error rfl
    | tags pieces rest =>
      have hcut : Alike (fun e e' => e.2 = e'.2) (List.Forall₂ SameButLine) (cutFrom total rest)
          (cutFrom total' rest) := by
        rw [cutFrom_eq, cutFrom_eq]
        exact (tagsFrom_sameButLines total total' rest).map fun _ _ hmore =>
          List.rel_append (forall₂_textPiece _) hmore
      exact hcut.map fun _ _ hmore => List.rel_append ((lead_spec hlead).2.2 total total') hmore
termination_by s.length
decreasing_by exact length_of_lead hlead

theorem cutFrom_sameButLines (total total' : Nat) (s : List Char) :
    Alike (fun e e' => e.2 = e'.2) (List.Forall₂ SameButLine) (cutFrom total s) (cutFrom total' s) := by
  rw [cutFrom_eq, cutFrom_eq]
  exact (tagsFrom_sameButLines total total' s).map fun _ _ hmore =>
    List.rel_append (forall₂_textPiece _) hmore

theorem startWithTag_of_tagsFrom {more : List Piece} (h : tagsFrom total s = .ok more) :
    StartWithTag more := by
  unfold tagsFrom at h
  cases hlead : lead s with
  | none =>
      rw [hlead] at h
      cases h
      exact nofun
  | some front =>
    cases front with
    | fault after fault =>
      rw [hlead] at h
      cases h
    | tags pieces rest =>
      rw [hlead] at h
      obtain ⟨tail, -, rfl⟩ := map_eq_ok.mp h
      obtain ⟨hstart, hne, -⟩ := (lead_spec hlead).2.1 total
      intro s hs
      rw [List.head?_append_of_ne_nil _ hne] at hs
      exact hstart s hs

/-! ### Sources in a row -/

theorem lead_of_passes (ht : Passes t) (s : List Char) : lead (t ++ s) = lead s := by
  unfold lead
  rw [ht]

theorem cutFrom_of_passes (ht : Passes t) (total : Nat) (s : List Char) :
    cutFrom total (t ++ s) = (tagsFrom total s).map (textPiece (t ++ (spanText s).1) ++ ·) := by
  have htags : tagsFrom total (t ++ s) = tagsFrom total s := by
    unfold tagsFrom
    rw [lead_of_passes ht]
  rw [cutFrom_eq, htags, ht]

theorem cutFrom_append_of_lead (h : lead s = some (.tags pieces rest)) (total : Nat) (more : List Char) :
    cutFrom (total + Text.lineFeeds more) (s ++ more) =
      (cutFrom (total + Text.lineFeeds more) (rest ++ more)).map
        (textPiece (spanText s).1 ++ pieces total ++ ·) := by
  obtain ⟨kind, body, inside, tail, hs, htag⟩ := closed_of_lead h
  obtain ⟨pieces', htag', hpieces⟩ := Lead.ofTag_append htag hs.ne_nil more
  rw [cutFrom_eq, tagsFrom, (hs.append more).2, htag', (hs.append more).1]
  dsimp only
  rw [hpieces]
  cases cutFrom (total + Text.lineFeeds more) (rest ++ more) with
  | error fault => rfl
  | ok ps => simp [Except.map]

theorem cutFrom_append_of_stray (h : lead s = some (.fault after .strayEndraw)) (total : Nat)
    (more : List Char) :
    cutFrom (total + Text.lineFeeds more) (s ++ more) = .error (lineOf total after, .strayEndraw) := by
  rcases lead_cases s with ⟨-, hs⟩ | ⟨after, close, hs⟩ | ⟨kind, body, inside, tail, hs⟩
  · cases hs.symm.trans h
  · cases hs.symm.trans h
  · have htag := Lead.ofTag_stray_append (Option.some.inj (hs.lead.symm.trans h)) more
    rw [cutFrom_eq, tagsFrom, (hs.append more).2, htag]
    dsimp only
    rw [lineOf_append]
    rfl

/-- A source is cut as far as its last text or its first fault, and the rest of it together with what follows.
The recursion is on what stands behind the first tag. -/
theorem exists_tail (total : Nat) (s : List Char) :
    ∃ ps t, EndWithTag ps ∧ (s = t ∨ ∃ l, s = l ++ '\x7d' :: t) ∧
      (∀ pieces rest, lead t ≠ some (.tags pieces rest)) ∧ ∀ more,
        cutFrom (total + Text.lineFeeds more) (s ++ more) =
          (cutFrom (total + Text.lineFeeds more) (t ++ more)).map (ps ++ ·) := by
  by_cases htags : ∃ pieces rest, lead s = some (.tags pieces rest)
  · obtain ⟨pieces, rest, hlead⟩ := htags
    obtain ⟨⟨l, hl⟩, hends, -⟩ := lead_spec hlead
    obtain ⟨ps, t, hps, hsource, ht, hcut⟩ := exists_tail total rest
    refine ⟨textPiece (spanText s).1 ++ pieces total ++ ps, t, ?_, .inr ?_, ht, fun more => ?_⟩
    · intro x hx
      cases ps with
      | nil =>
          rw [List.append_nil, List.getLast?_append_of_ne_nil _ (hends total).2.1] at hx
          exact (hends total).2.2 x hx
      | cons p ps =>
          rw [List.getLast?_append_cons] at hx
          exact hps x hx
    · rcases hsource with rfl | ⟨l', rfl⟩
      · exact ⟨l, hl⟩
      · exact ⟨l ++ '\x7d' :: l', by rw [hl]; simp⟩
    · rw [cutFrom_append_of_lead hlead, hcut]
      cases cutFrom (total + Text.lineFeeds more) (t ++ more) with
      | error fault => rfl
      | ok qs => simp [Except.map]
  · refine ⟨[], s, nofun, .inl rfl, fun pieces rest h => htags ⟨pieces, rest, h⟩, fun more => ?_⟩
    cases cutFrom (total + Text.lineFeeds more) (s ++ more) <;> rfl
termination_by s.length
decreasing_by exact length_of_lead hlead

/-- A source that ends outside of tags is cut as far as its last text, and the rest of it together with what
follows, unless it has a stray end tag: then nothing is cut. -/
theorem cutFrom_append_of_outside {s : List Char} (hlast : s.getLast? ≠ some '\x7b')
    (houtside : ∀ line fault, cutFrom total s = .error (line, fault) → fault = .strayEndraw) :
    (∃ line, ∀ more, cutFrom (total + Text.lineFeeds more) (s ++ more) = .error (line, .strayEndraw)) ∨
    ∃ ps t, EndWithTag ps ∧ Passes t ∧ (s = t ∨ ∃ l, s = l ++ '\x7d' :: t) ∧ ∀ more,
      cutFrom (total + Text.lineFeeds more) (s ++ more) =
        (cutFrom (total + Text.lineFeeds more) (t ++ more)).map (ps ++ ·) := by
  obtain ⟨ps, t, hps, hsource, ht, hcut⟩ := exists_tail total s
  cases hlead : lead t with
  | none =>
      refine .inr ⟨ps, t, hps, passes_of_spanText_none (spanText_of_lead_none hlead) fun hend => hlast ?_,
        hsource, hcut⟩
      rcases hsource with rfl | ⟨l, rfl⟩
      · exact hend
      · rw [List.getLast?_append_cons, List.getLast?_cons, hend]
        rfl
  | some front =>
    cases front with
    | tags pieces rest => exact absurd hlead (ht pieces rest)
    | fault after fault =>
        have hfault : cutFrom total s = .error (lineOf total after, fault) := by
          have hall := hcut []
          rw [List.append_nil, List.append_nil] at hall
          refine hall.trans ?_
          show (cutFrom total t).map (ps ++ ·) = _
          rw [cutFrom_eq, tagsFrom, hlead]
          rfl
        cases houtside _ _ hfault
        refine .inl ⟨lineOf total after, fun more => ?_⟩
        rw [hcut, cutFrom_append_of_stray hlead]
        rfl

/-- A source that ends with a line outside of tags is cut as far as its last text, and the rest of it together
with what follows, unless it has a stray end tag: then nothing is cut. -/
theorem cutFrom_append {s : List Char} (hlast : s.getLast? = some '\n')
    (houtside : ∀ line fault, cutFrom total s = .error (line, fault) → fault = .strayEndraw) :
    (∃ line, ∀ more, cutFrom (total + Text.lineFeeds more) (s ++ more) = .error (line, .strayEndraw)) ∨
    ∃ ps t, EndWithTag ps ∧ Passes t ∧ t.getLast? = some '\n' ∧ ∀ more,
      cutFrom (total + Text.lineFeeds more) (s ++ more) =
        (cutFrom (total + Text.lineFeeds more) (t ++ more)).map (ps ++ ·) := by
  refine (cutFrom_append_of_outside (by rw [hlast]; decide) houtside).imp_right ?_
  rintro ⟨ps, t, hps, ht, hsource, hcut⟩
  refine ⟨ps, t, hps, ht, ?_, hcut⟩
  rcases hsource with rfl | ⟨l, rfl⟩
  · exact hlast
  · cases t with
    | nil =>
        rw [List.getLast?_concat] at hlast
        cases hlast
    | cons c t => rwa [List.getLast?_append_cons, List.getLast?_cons_cons] at hlast

end

end ClassScribe.Template.Piece
