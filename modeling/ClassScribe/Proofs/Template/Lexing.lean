import ClassScribe.Proofs.Expr.RoundTrip
import ClassScribe.Proofs.Expr.Trimming
import ClassScribe.Proofs.Template.Cutting
import ClassScribe.Template.Source
import ClassScribe.Template.Spacing

/-! # Cutting written tags

A tag or raw section that has been written is cut off the front of whatever text it stands in
(`Lexes.tag`, `Lexes.raw`). What decides this is that the text of a tag spans itself: no closing
stands in it outside of strings. -/

namespace ClassScribe.Template

/-! ### Texts inside tags -/

namespace Piece

variable {close : Char} {s t : List Char}

/-- A text that is passed over in the search for the closing of a tag. -/
def Spans (close : Char) (s : List Char) : Prop :=
  ∀ rest, spanInner close true none (s ++ rest) =
    (spanInner close true none rest).map fun (inside, after) => (s ++ inside, after)

theorem spans_nil : Spans close [] := by
  intro rest
  cases h : spanInner close true none rest <;> simp [h]

theorem Spans.append (hs : Spans close s) (ht : Spans close t) : Spans close (s ++ t) := by
  intro rest
  rw [List.append_assoc, hs, ht]
  cases spanInner close true none rest <;> simp

theorem spans_char {c : Char} (hc : c ≠ close) (hd : c ≠ '"') (hq : c ≠ '\'') : Spans close [c] := by
  intro rest
  show spanInner close true none (c :: rest) = _
  rw [spanInner]
  simp only [Bool.true_and, Bool.or_eq_true, beq_iff_eq, hd, hq, or_self, if_false, if_neg hc]
  rfl

theorem spans_of_not_mem (hc : close ∉ s) (hd : '"' ∉ s) (hq : '\'' ∉ s) : Spans close s := by
  induction s with
  | nil => exact spans_nil
  | cons c s ih =>
      rw [List.mem_cons, not_or] at hc hd hq
      exact (spans_char (Ne.symm hc.1) (Ne.symm hd.1) (Ne.symm hq.1)).append (ih hc.2 hd.2 hq.2)

theorem spanInner_escape (s rest : List Char) :
    spanInner close true (some '"') (s.flatMap Token.escape ++ '"' :: rest) =
      (spanInner close true none rest).map fun (inside, after) =>
        (s.flatMap Token.escape ++ '"' :: inside, after) := by
  induction s with
  | nil =>
      show spanInner close true (some '"') ('"' :: rest) = _
      rw [spanInner.eq_def]
      rfl
  | cons c s ih =>
      rw [List.flatMap_cons]
      by_cases hc : c = '"' ∨ c = '\\'
      · have he : Token.escape c = ['\\', c] := if_pos hc
        rw [he]
        show spanInner close true (some '"') ('\\' :: c :: (s.flatMap Token.escape ++ '"' :: rest)) = _
        rw [spanInner, if_pos rfl, ih]
        cases spanInner close true none rest <;> rfl
      · have he : Token.escape c = [c] := if_neg hc
        rw [not_or] at hc
        rw [he]
        show spanInner close true (some '"') (c :: (s.flatMap Token.escape ++ '"' :: rest)) = _
        rw [spanInner.eq_def]
        dsimp only
        rw [if_neg hc.2, if_neg hc.1, ih]
        cases spanInner close true none rest <;> rfl

theorem spans_string (s : List Char) : Spans close ('"' :: s.flatMap Token.escape ++ ['"']) := by
  intro rest
  rw [List.append_assoc]
  show spanInner close true none ('"' :: (s.flatMap Token.escape ++ '"' :: rest)) = _
  rw [spanInner]
  simp only [Bool.true_and, beq_self_eq_true, Bool.true_or, if_true]
  rw [spanInner_escape]
  cases spanInner close true none rest <;> simp

theorem spans_spelling {t : Token} (ht : t.isWritable = true)
    (hclose : close = '%' ∨ close = '\x7d') : Spans close t.spelling := by
  rcases Token.spelling_cases ht with ⟨-, hall⟩ | ⟨x, rfl⟩ | ⟨x, rfl⟩
  · have hnot : ∀ c, Text.isIdentPart c = false → c ∉ t.spelling := by
      intro c hc hmem
      rw [hall c hmem] at hc
      cases hc
    refine spans_of_not_mem (hnot close ?_) (hnot _ (by decide)) (hnot _ (by decide))
    rcases hclose with rfl | rfl <;> decide
  · exact spans_string x.toList
  · refine spans_of_not_mem ?_ (by cases x <;> decide) (by cases x <;> decide)
    rcases hclose with rfl | rfl <;> cases x <;> decide

theorem spans_of_spells {ts : List Token} (h : Token.Spells s ts)
    (hts : ∀ t ∈ ts, t.isWritable = true) (hclose : close = '%' ∨ close = '\x7d') :
    Spans close s := by
  induction h with
  | done => exact spans_nil
  | @blank c s ts hc _ ih =>
      refine Spans.append (s := [c]) ?_ (ih hts)
      simp only [Text.isAsciiBlank, Bool.or_eq_true, beq_iff_eq] at hc
      refine spans_char ?_ ?_ ?_
      · rcases hclose with rfl | rfl <;> rcases hc with (((rfl | rfl) | rfl) | rfl) | rfl <;> decide
      · rcases hc with (((rfl | rfl) | rfl) | rfl) | rfl <;> decide
      · rcases hc with (((rfl | rfl) | rfl) | rfl) | rfl <;> decide
  | token _ _ ih =>
      exact (spans_spelling (hts _ List.mem_cons_self) hclose).append
        (ih fun t ht => hts t (List.mem_cons_of_mem _ ht))

theorem spans_of_isIdentifier (h : Text.isIdentifier s = true) (hclose : close = '%' ∨ close = '\x7d') :
    Spans close s := by
  have hs : Spans close (Token.name (String.ofList s)).spelling :=
    spans_spelling (by rwa [Token.isWritable, String.toList_ofList]) hclose
  rwa [Token.spelling, String.toList_ofList] at hs

/-! ### Tags -/

theorem spanText_tag {o : Char} {kind : TagKind} (ho : opens? o = some kind) (body : List Char) :
    spanText ('\x7b' :: o :: body) = ([], some (kind, body)) := by
  rw [spanText]
  simp [ho]

theorem spanInner_close (hd : close ≠ '"') (hq : close ≠ '\'') (rest : List Char) :
    spanInner close true none (close :: '\x7d' :: rest) = some ([], rest) := by
  rw [spanInner.eq_def]
  simp [hd, hq]

theorem tailMarker_space (s : List Char) : tailMarker (s ++ [' ']) = (.plain, s ++ [' ']) := by
  unfold tailMarker
  rw [List.getLast?_concat]
  rfl

/-- A tag that has been written with a space on either side is cut off. -/
theorem cutFrom_tag {kind : TagKind} {o : Char} (ho : opens? o = some kind) (hkind : kind ≠ .comment)
    (hs : Spans (closer kind) s)
    (hraw : kind = .statement → Text.trim s ≠ "endraw".toList ∧ Text.trim s ≠ "raw".toList)
    (total : Nat) (rest : List Char) :
    ∃ line, cutFrom total ('\x7b' :: o :: (' ' :: (s ++ [' ']) ++ closer kind :: '\x7d' :: rest)) =
      (cutFrom total rest).map (.tag ⟨kind, Text.trim s, line, .plain, .plain⟩ :: ·) := by
  have hspace : Spans (closer kind) [' '] :=
    spans_char (by cases kind <;> decide) (by decide) (by decide)
  have hinner : spanInner (closer kind) (kind != .comment) none
      (leadMarker (' ' :: (s ++ [' ']) ++ closer kind :: '\x7d' :: rest)).2 =
        some (' ' :: (s ++ [' ']), rest) := by
    have hq : (kind != .comment) = true := by simpa using hkind
    rw [hq]
    refine ((hspace.append (hs.append hspace)) _).trans ?_
    rw [spanInner_close (by cases kind <;> decide) (by cases kind <;> decide)]
    simp
  have htrim : Text.trim (' ' :: (s ++ [' '])) = Text.trim s :=
    Text.trim_pad Text.allBlank_space Text.allBlank_space s
  rw [cutFrom, spanText_tag ho]
  dsimp only
  split
  · next hnone =>
      rw [hinner] at hnone
      cases hnone
  · next inside after heq =>
      rw [hinner] at heq
      obtain ⟨rfl, rfl⟩ := Prod.mk.inj (Option.some.inj heq)
      have htail : tailMarker (' ' :: (s ++ [' '])) = (.plain, ' ' :: (s ++ [' '])) :=
        tailMarker_space (' ' :: s)
      rw [htail]
      dsimp only
      rw [htrim, if_neg fun h => (hraw h.1).1 h.2, if_neg fun h => (hraw h.1).2 h.2]
      exact ⟨_, rfl⟩

/-! ### Raw sections -/

theorem exists_leadMarker (s : List Char) :
    ∃ left ∈ [[], ['-'], ['+']], s = left ++ (leadMarker s).2 := by
  unfold leadMarker
  split
  · exact ⟨['-'], by simp, rfl⟩
  · exact ⟨['+'], by simp, rfl⟩
  · exact ⟨[], by simp, rfl⟩

theorem exists_endrawTag {left right : Marker} {after : List Char}
    (h : readEndraw? s = some (left, right, after)) :
    ∃ tag, EndrawTag ('\x7b' :: '%' :: tag) ∧ s = tag ++ after := by
  simp only [readEndraw?, Option.bind_eq_bind, Option.bind_eq_some_iff] at h
  obtain ⟨u, hu, h⟩ := h
  obtain ⟨l, hl, hs⟩ := exists_leadMarker s
  obtain ⟨blank, hblank, hstart⟩ := Text.exists_trimStart (leadMarker s).2
  obtain ⟨blank', hblank', hstart'⟩ := Text.exists_trimStart u
  obtain ⟨r, hr, hend⟩ := exists_leadMarker (Text.trimStart u)
  rw [Text.dropLead?_eq_some.mp hu] at hstart
  split at h
  · next rest hclose =>
      cases h
      rw [hclose] at hend
      refine ⟨_, .tag hl hr hblank hblank', ?_⟩
      rw [hs, hstart, hstart', hend]
      simp
  · cases h

theorem leadMarker_append_of_marker {left t : List Char} (hl : left ∈ [[], ['-'], ['+']])
    (ht : ∀ c ∈ t.head?, c ≠ '-' ∧ c ≠ '+') : leadMarker (left ++ t) = ((leadMarker left).1, t) := by
  simp only [List.mem_cons, List.not_mem_nil, or_false] at hl
  rcases hl with rfl | rfl | rfl
  · cases t with
    | nil => rfl
    | cons c t =>
        obtain ⟨hminus, hplus⟩ := ht c rfl
        simp [leadMarker, hminus, hplus]
  · rfl
  · rfl

theorem readEndraw?_tag {left right blank blank' : List Char} (hl : left ∈ [[], ['-'], ['+']])
    (hr : right ∈ [[], ['-'], ['+']]) (hblank : Text.AllBlank blank) (hblank' : Text.AllBlank blank')
    (rest : List Char) :
    readEndraw? (left ++ (blank ++ ("endraw".toList ++ (blank' ++ (right ++ '%' :: '\x7d' :: rest))))) =
      some ((leadMarker left).1, (leadMarker right).1, rest) := by
  have hword (t : List Char) :
      Text.trimStart (blank ++ ("endraw".toList ++ t)) = "endraw".toList ++ t := by
    rw [Text.trimStart_append hblank]
    refine Text.trimStart_of_head fun c hc => ?_
    cases hc
    decide
  have hclose (t : List Char) : Text.trimStart (blank' ++ (right ++ '%' :: t)) = right ++ '%' :: t := by
    rw [Text.trimStart_append hblank']
    refine Text.trimStart_of_head fun c hc => ?_
    simp only [List.mem_cons, List.not_mem_nil, or_false] at hr
    rcases hr with rfl | rfl | rfl
    all_goals
      cases hc
      decide
  have hleft (t : List Char) : ∀ c ∈ (blank ++ ("endraw".toList ++ t)).head?, c ≠ '-' ∧ c ≠ '+' := by
    intro c hc
    cases blank with
    | nil =>
        cases hc
        decide
    | cons b blank =>
        cases hc
        have hb := hblank c List.mem_cons_self
        exact ⟨by rintro rfl; revert hb; decide, by rintro rfl; revert hb; decide⟩
  unfold readEndraw?
  rw [leadMarker_append_of_marker hl (hleft _)]
  dsimp only
  rw [hword, Text.dropLead?_eq_some.mpr rfl, Option.bind_eq_bind, Option.bind_some, hclose,
    leadMarker_append_of_marker hr]
  · rfl
  · rintro c hc
    cases hc
    decide

theorem exists_readEndraw? {tag : List Char} (h : EndrawTag ('\x7b' :: '%' :: tag)) :
    ∃ left right, ∀ rest, readEndraw? (tag ++ rest) = some (left, right, rest) := by
  generalize hs : '\x7b' :: '%' :: tag = s at h
  cases h with
  | @tag left right blank blank' hl hr hblank hblank' =>
      obtain rfl := (List.cons.inj (List.cons.inj hs).2).2
      refine ⟨(leadMarker left).1, (leadMarker right).1, fun rest => ?_⟩
      simpa using readEndraw?_tag hl hr hblank hblank' rest

/-- Behind the opening of an end tag nothing is opened. -/
theorem not_mem_endrawTag {tag : List Char} (h : EndrawTag ('\x7b' :: '%' :: tag)) :
    '\x7b' ∉ tag := by
  generalize hs : '\x7b' :: '%' :: tag = s at h
  cases h with
  | @tag left right blank blank' hl hr hblank hblank' =>
      have hmarker : ∀ m ∈ [[], ['-'], ['+']], '\x7b' ∉ m := by decide
      have hnot : ∀ b, Text.AllBlank b → '\x7b' ∉ b := fun b hb hmem =>
        absurd (hb _ hmem) (by decide)
      obtain rfl := (List.cons.inj (List.cons.inj hs).2).2
      show '\x7b' ∉ left ++ (blank ++ ("endraw".toList ++ (blank' ++ (right ++ "%\x7d".toList))))
      simp only [List.mem_append, not_or]
      exact ⟨hmarker _ hl, hnot _ hblank, by decide, hnot _ hblank', hmarker _ hr, by decide⟩

theorem readEndraw?_eq_none {more : List Char}
    (h : ∀ tag r, s = tag ++ r → ¬EndrawTag ('\x7b' :: '%' :: tag)) :
    readEndraw? (s ++ '\x7b' :: more) = none := by
  cases hread : readEndraw? (s ++ '\x7b' :: more) with
  | none => rfl
  | some found =>
      obtain ⟨left, right, after⟩ := found
      obtain ⟨tag, htag, heq⟩ := exists_endrawTag hread
      rcases List.append_eq_append_iff.mp heq with ⟨k, hk, hk'⟩ | ⟨k, hk, -⟩
      · cases k with
        | nil => exact absurd htag (h tag [] (by simpa using hk.symm))
        | cons c k =>
            obtain ⟨rfl, -⟩ := List.cons.inj hk'
            exact absurd (by rw [hk]; simp) (not_mem_endrawTag htag)
      · exact absurd htag (h tag k hk)

end Piece

/-! ### Texts in raw sections -/

theorem HoldsNoEndraw.tail {c : Char} {s : List Char} (h : HoldsNoEndraw (c :: s)) :
    HoldsNoEndraw s := fun l tag r hs => h (c :: l) tag r (by rw [hs]; rfl)

namespace Piece

theorem spanRaw_cons {c : Char} (h : ∀ r, c :: s ≠ '\x7b' :: '%' :: r) :
    spanRaw (c :: s) = (spanRaw s).map fun (t, found) => (c :: t, found) := by
  rw [spanRaw.eq_def]
  split
  · next r heq => exact absurd heq (h r)
  · next heq =>
      cases heq
      rfl
  · next heq => cases heq

/-- A raw section goes up to its end tag. -/
theorem spanRaw_append (h : HoldsNoEndraw s) {tag rest : List Char} {left right : Marker}
    (hread : readEndraw? (tag ++ rest) = some (left, right, rest)) :
    spanRaw (s ++ '\x7b' :: '%' :: (tag ++ rest)) = some (s, left, right, rest) := by
  fun_induction spanRaw s with
  | case1 r _ _ after hfound =>
      obtain ⟨tag, htag, rfl⟩ := exists_endrawTag hfound
      exact absurd htag (h [] _ after rfl)
  | case2 r _ ih =>
      have hnone : readEndraw? (r ++ '\x7b' :: '%' :: (tag ++ rest)) = none :=
        readEndraw?_eq_none fun tag u hr => h [] _ u (by rw [hr]; rfl)
      rw [List.cons_append, List.cons_append, spanRaw, hnone, ih h.tail.tail]
      rfl
  | case3 c r hc ih =>
      rw [List.cons_append, spanRaw_cons ?_, ih h.tail]
      · rfl
      · intro u hu
        obtain ⟨rfl, hr⟩ := List.cons.inj hu
        cases r with
        | nil => exact absurd (List.cons.inj hr).1 (by decide)
        | cons d r =>
            obtain ⟨rfl, -⟩ := List.cons.inj hr
            exact hc r rfl rfl
  | case4 =>
      show spanRaw ('\x7b' :: '%' :: (tag ++ rest)) = _
      rw [spanRaw, hread]

/-- A raw section that has been written is cut off. -/
theorem cutFrom_raw (hne : s ≠ []) (h : HoldsNoEndraw s) (total : Nat) (rest : List Char) :
    ∃ line line', cutFrom total (rawText s ++ rest) = (cutFrom total rest).map fun more =>
      .tag ⟨.comment, "raw".toList, line, .plain, .plain⟩ :: .text s ::
        .tag ⟨.comment, "endraw".toList, line', .plain, .plain⟩ :: more := by
  have hinner : spanInner '%' true none
      (" raw %\x7d".toList ++ (s ++ ("\x7b% endraw %\x7d".toList ++ rest))) =
        some (" raw ".toList, s ++ ("\x7b% endraw %\x7d".toList ++ rest)) := rfl
  have hsource : rawText s ++ rest = '\x7b' :: '%' ::
      (" raw %\x7d".toList ++ (s ++ ("\x7b% endraw %\x7d".toList ++ rest))) := by
    unfold rawText
    rw [List.append_assoc, List.append_assoc]
    rfl
  have hread : readEndraw? (" endraw %\x7d".toList ++ rest) = some (.plain, .plain, rest) := rfl
  have hspan : spanRaw (s ++ ("\x7b% endraw %\x7d".toList ++ rest)) = some (s, .plain, .plain, rest) :=
    spanRaw_append h hread
  have htail : tailMarker " raw ".toList = (.plain, " raw ".toList) := by decide
  have htrim : Text.trim " raw ".toList = "raw".toList := by decide
  rw [hsource, cutFrom, spanText_tag rfl]
  dsimp only
  split
  · next hnone => cases hinner.symm.trans hnone
  · next inside after heq =>
      obtain ⟨rfl, rfl⟩ := Prod.mk.inj (Option.some.inj (hinner.symm.trans heq))
      rw [htail]
      dsimp only
      rw [htrim, if_neg (by decide), if_pos (by decide)]
      split
      · next hnone => cases hspan.symm.trans hnone
      · next raw left right after hraw =>
          cases hspan.symm.trans hraw
          refine ⟨lineOf total (" raw %\x7d".toList ++ (s ++ ("\x7b% endraw %\x7d".toList ++ rest))),
            lineOf total rest, ?_⟩
          have hpiece : textPiece s = [.text s] := if_neg (by simpa using hne)
          rw [hpiece]
          rfl

/-! ### Plain pieces -/

/-- Whether no white space is taken off around a piece. -/
def IsPlain : Piece → Prop
  | .text _ => True
  | .tag t => t.left = .plain ∧ t.right = .plain

/-- What is left of a plain piece. -/
def parts : Piece → List Part
  | .text s => Spacing.textParts s
  | .tag t => Spacing.tagParts t

theorem between_of_plain {previous next : Option Tag} (hp : ∀ t ∈ previous, t.right = .plain)
    (hn : ∀ t ∈ next, t.left = .plain) (s : List Char) :
    Spacing.between ⟨false, false⟩ previous next s = s := by
  have hafter : ∀ t ∈ previous, Spacing.after ⟨false, false⟩ t s = (s, false) := by
    intro t ht
    unfold Spacing.after
    rw [if_neg (by simp [hp t ht]), if_neg (by simp)]
  have hbefore : ∀ t ∈ next, ∀ b, Spacing.before ⟨false, false⟩ t b s = s := by
    intro t ht b
    unfold Spacing.before
    rw [if_neg (by simp [hn t ht]), if_neg (by simp)]
  unfold Spacing.between
  cases previous with
  | none => cases next <;> simp [hbefore]
  | some t => cases next <;> simp [hafter, hbefore]

theorem applyFrom_of_plain {pieces : List Piece} (h : ∀ p ∈ pieces, p.IsPlain)
    {previous : Option Tag} (hp : ∀ t ∈ previous, t.right = .plain) :
    Spacing.applyFrom ⟨false, false⟩ previous pieces = pieces.flatMap parts := by
  induction pieces generalizing previous with
  | nil => rfl
  | cons piece pieces ih =>
      obtain ⟨hpiece, hrest⟩ := List.forall_mem_cons.mp h
      rw [List.flatMap_cons]
      cases piece with
      | text s =>
          have hn : ∀ t ∈ Spacing.leadTag? pieces, t.left = .plain := by
            intro t ht
            cases pieces with
            | nil => cases ht
            | cons piece pieces =>
                cases piece with
                | text s => cases ht
                | tag t =>
                    cases ht
                    exact (hrest _ List.mem_cons_self).1
          rw [Spacing.applyFrom, between_of_plain hp hn, ih hrest (by simp)]
          rfl
      | tag t =>
          rw [Spacing.applyFrom, ih hrest fun u hu => by rw [← Option.some.inj hu]; exact hpiece.2]
          rfl

end Piece

/-! ### Texts that are cut off -/

/-- Whether a text is cut off the front of any text, in plain pieces that leave parts with a
property. -/
def Lexes (s : List Char) (P : List Part → Prop) : Prop :=
  ∀ total rest, ∃ pieces : List Piece, (∀ p ∈ pieces, p.IsPlain) ∧
    Piece.cutFrom total (s ++ rest) = (Piece.cutFrom total rest).map (pieces ++ ·) ∧
    P (pieces.flatMap Piece.parts)

namespace Lexes

variable {s t : List Char} {P Q : List Part → Prop}

theorem mono (h : Lexes s P) (hPQ : ∀ ps, P ps → Q ps) : Lexes s Q := fun total rest =>
  have ⟨pieces, hplain, hcut, hP⟩ := h total rest
  ⟨pieces, hplain, hcut, hPQ _ hP⟩

theorem nil (h : P []) : Lexes [] P := by
  intro total rest
  refine ⟨[], List.forall_mem_nil _, ?_, h⟩
  cases hcut : Piece.cutFrom total rest <;> simp [hcut, Except.map]

theorem append (hs : Lexes s P) (ht : Lexes t Q) :
    Lexes (s ++ t) fun rs => ∃ ps qs, P ps ∧ Q qs ∧ rs = ps ++ qs := by
  intro total rest
  obtain ⟨pieces, hplain, hcut, hP⟩ := hs total (t ++ rest)
  obtain ⟨pieces', hplain', hcut', hQ⟩ := ht total rest
  refine ⟨pieces ++ pieces', ?_, ?_, ?_⟩
  · exact fun p hp => (List.mem_append.mp hp).elim (hplain p) (hplain' p)
  · rw [List.append_assoc, hcut, hcut']
    cases Piece.cutFrom total rest <;> simp [Except.map]
  · exact ⟨_, _, hP, hQ, List.flatMap_append⟩

theorem tag (kind : TagKind) {o : Char} (ho : Piece.opens? o = some kind) (hkind : kind ≠ .comment)
    (hs : Piece.Spans (Piece.closer kind) s)
    (hraw : kind = .statement → Text.trim s ≠ "endraw".toList ∧ Text.trim s ≠ "raw".toList) :
    Lexes ('\x7b' :: o :: (' ' :: (s ++ [' ']) ++ [Piece.closer kind, '\x7d']))
      fun ps => ∃ line, ps = Spacing.tagParts ⟨kind, Text.trim s, line, .plain, .plain⟩ := by
  intro total rest
  obtain ⟨line, hcut⟩ := Piece.cutFrom_tag ho hkind hs hraw total rest
  refine ⟨[.tag ⟨kind, Text.trim s, line, .plain, .plain⟩], ?_, ?_, line, by simp [Piece.parts]⟩
  · simp [Piece.IsPlain]
  · refine Eq.trans ?_ hcut
    simp

theorem statement (hs : Piece.Spans '%' s) (hend : Text.trim s ≠ "endraw".toList)
    (hraw : Text.trim s ≠ "raw".toList) :
    Lexes (statementText s) fun ps => ∃ line, ps = [.statement (Text.trim s) line] := by
  have h := tag .statement (o := '%') rfl (by decide) hs fun _ => ⟨hend, hraw⟩
  have htext : statementText s =
      '\x7b' :: '%' :: (' ' :: (s ++ [' ']) ++ [Piece.closer .statement, '\x7d']) := by
    simp [statementText, Piece.closer]
  rwa [htext]

theorem output (hs : Piece.Spans '\x7d' s) :
    Lexes (outputText s) fun ps => ∃ line, ps = [.output (Text.trim s) line] := by
  have h := tag .output (o := '\x7b') rfl (by decide) hs fun h => by cases h
  have htext : outputText s =
      '\x7b' :: '\x7b' :: (' ' :: (s ++ [' ']) ++ [Piece.closer .output, '\x7d']) := by
    simp [outputText, Piece.closer]
  rwa [htext]

theorem raw (hne : s ≠ []) (h : HoldsNoEndraw s) : Lexes (rawText s) (· = [.text s]) := by
  intro total rest
  obtain ⟨line, line', hcut⟩ := Piece.cutFrom_raw hne h total rest
  refine ⟨[.tag ⟨.comment, "raw".toList, line, .plain, .plain⟩, .text s,
    .tag ⟨.comment, "endraw".toList, line', .plain, .plain⟩], ?_, hcut, ?_⟩
  · simp [Piece.IsPlain]
  · have htext : Spacing.textParts s = [.text s] := if_neg (by simpa using hne)
    simp [Piece.parts, Spacing.tagParts, htext]

theorem cut (h : Lexes s P) : ∃ pieces, Piece.cut s = .ok pieces ∧
    P (Spacing.apply ⟨false, false⟩ pieces) := by
  obtain ⟨pieces, hplain, hcut, hP⟩ := h (Text.lineFeeds s) []
  have hnil : Piece.cutFrom (Text.lineFeeds s) [] = .ok [] := by
    rw [Piece.cutFrom]
    rfl
  rw [List.append_nil, hnil] at hcut
  refine ⟨pieces, (Piece.cut_eq s).trans (hcut.trans (by simp [Except.map])), ?_⟩
  rwa [Spacing.apply, Piece.applyFrom_of_plain hplain (by simp)]

end Lexes

end ClassScribe.Template
