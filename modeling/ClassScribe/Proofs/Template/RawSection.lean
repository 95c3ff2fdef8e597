import ClassScribe.Proofs.Template.Forest
import ClassScribe.Proofs.Template.Indentation
import ClassScribe.Proofs.Template.Rendering
import ClassScribe.Proofs.Template.Spacing
import ClassScribe.Template.RawSection

/-! # Raw sections are copied, but for white space at the end tag

The text in a raw section is copied, whatever tags stand in it, and so is the text behind the section
(`exists_render_keptRaw`). With the markers to keep, white space can be lost at the end tag only
(`render_keptRaw`). -/

namespace ClassScribe.Template

/-! ### Cutting -/

namespace Piece

variable {s t : List Char}

theorem spanRaw_ne_none {tag : List Char} (htag : EndrawTag ('\x7b' :: '%' :: tag)) (l r : List Char) :
    spanRaw (l ++ '\x7b' :: '%' :: (tag ++ r)) ≠ none := by
  obtain ⟨left, right, hread⟩ := exists_readEndraw? htag
  fun_induction spanRaw l with
  | case1 tail _ _ after hfound =>
      show spanRaw ('\x7b' :: '%' :: (tail ++ '\x7b' :: '%' :: (tag ++ r))) ≠ none
      rw [spanRaw, readEndraw?_append hfound]
      exact Option.some_ne_none _
  | case2 tail _ ih =>
      show spanRaw ('\x7b' :: '%' :: (tail ++ '\x7b' :: '%' :: (tag ++ r))) ≠ none
      rw [spanRaw]
      split
      · exact Option.some_ne_none _
      · rwa [ne_eq, Option.map_eq_none_iff]
  | case3 c tail hc ih =>
      rw [List.cons_append, spanRaw_cons, ne_eq, Option.map_eq_none_iff]
      · exact ih
      · intro u hu
        obtain ⟨rfl, hr⟩ := List.cons.inj hu
        cases tail with
        | nil => exact absurd (List.cons.inj hr).1 (by decide)
        | cons d tail =>
            obtain ⟨rfl, -⟩ := List.cons.inj hr
            exact hc tail rfl rfl
  | case4 =>
      show spanRaw ('\x7b' :: '%' :: (tag ++ r)) ≠ none
      rw [spanRaw, hread]
      exact Option.some_ne_none _

/-- A text can stand in a raw section just if no end tag is found in it. -/
theorem holdsNoEndraw_iff : HoldsNoEndraw s ↔ spanRaw s = none := by
  constructor
  · intro h
    fun_induction spanRaw s with
    | case1 tail _ _ after hread =>
        obtain ⟨tag, htag, rfl⟩ := exists_endrawTag hread
        exact absurd htag (h [] _ after rfl)
    | case2 tail hread ih => rw [ih h.tail.tail, Option.map_none]
    | case3 c tail _ ih => rw [ih h.tail, Option.map_none]
    | case4 => rfl
  · rintro h l tag r rfl htag
    obtain ⟨tail, rfl⟩ : ∃ tail, tag = '\x7b' :: '%' :: tail := by
      cases htag
      exact ⟨_, rfl⟩
    exact spanRaw_ne_none htag l r h

theorem spanText_of_holdsNoOpening (h : HoldsNoOpening s) : (spanText s).2 = none := by
  fun_induction spanText s with
  | case1 => rfl
  | case2 => rfl
  | case3 c d rest kind hopens =>
      by_cases hc : c = '\x7b'
      · subst hc
        exact absurd (List.prefix_append ['\x7b', d] rest).isInfix (h d kind hopens)
      · rw [if_neg hc] at hopens
        cases hopens
  | case4 c d rest hopens before found heq ih =>
      rw [heq] at ih
      exact ih fun e kind he hopening => h e kind he (hopening.trans (List.suffix_cons c _).isInfix)

theorem cutFrom_of_holdsNoOpening (h : HoldsNoOpening s) (total : Nat) :
    cutFrom total s = .ok (textPiece s) := by
  have hspan := spanText_of_holdsNoOpening h
  have hlead : lead s = none := by simp only [lead, hspan]
  have hs : (spanText s).1 = s := eq_of_spanText_none (Prod.ext rfl hspan)
  rw [cutFrom_eq, tagsFrom, hlead, hs]
  show Except.ok (textPiece s ++ []) = _
  rw [List.append_nil]

/-- A raw section with markers to keep, and a text behind it. -/
theorem cut_keptRaw {s t : String} (hs : HoldsNoEndraw s.toList) (ht : HoldsNoOpening t.toList) :
    ∃ line line', cut (keptRaw s ++ t).toList =
      .ok (.tag ⟨.comment, "raw".toList, line, .keep, .keep⟩ :: (textPiece s.toList ++
        .tag ⟨.comment, "endraw".toList, line', .plain, .plain⟩ :: textPiece t.toList)) := by
  let rest := s.toList ++ '\x7b' :: '%' :: ("+ endraw +%\x7d".toList ++ t.toList)
  let body := "+ raw +%\x7d".toList ++ rest
  have hsource : (keptRaw s ++ t).toList = '\x7b' :: '%' :: body := by
    simp [keptRaw, String.toList_append, body, rest]
  have hspan : spanRaw rest = some (s.toList, .keep, .keep, t.toList) := spanRaw_append hs rfl
  have hlead : lead ('\x7b' :: '%' :: body) = some (.ofTag .statement body " raw +".toList rest) :=
    lead_eq_ofTag (spanText_tag rfl body) rfl
  rw [cut_eq, hsource]
  generalize Text.lineFeeds _ = total
  refine ⟨lineOf total body, lineOf total t.toList, ?_⟩
  rw [cutFrom_eq, tagsFrom, hlead]
  unfold Lead.ofTag
  rw [if_neg (by decide), if_pos (by decide), hspan]
  dsimp only
  rw [cutFrom_of_holdsNoOpening ht]
  show Except.ok (_ :: (textPiece s.toList ++ [_]) ++ textPiece t.toList) = _
  rw [List.cons_append, List.append_assoc]
  rfl

end Piece

/-! ### White space -/

namespace Spacing

variable {options : Spacing} {s t : List Char}

theorem dropIndentation_of_no_line (h : '\n' ∉ s) :
    dropIndentation true s = if s.all isIndentation then [] else s := by
  have hline : ∀ c ∈ s.reverse, (c != '\n') = true := by
    intro c hc
    rw [bne_iff_ne]
    rintro rfl
    exact h (List.mem_reverse.mp hc)
  unfold dropIndentation
  rw [List.takeWhile_eq_self_iff.mpr hline, List.dropWhile_eq_nil_iff.mpr hline]
  simp

theorem exists_last_line (h : '\n' ∈ s) : ∃ u i, s = u ++ '\n' :: i ∧ '\n' ∉ i := by
  obtain ⟨l, r, hreverse, hl⟩ := List.eq_append_cons_of_mem (List.mem_reverse.mpr h)
  refine ⟨r.reverse, l.reverse, ?_, fun hmem => hl (List.mem_reverse.mp hmem)⟩
  rw [← List.reverse_reverse s, hreverse]
  simp

theorem insideKept_eq_iff : options.insideKept s = s ↔ options.SparesInside s := by
  unfold insideKept SparesInside
  cases options.lstripBlocks with
  | false => simp
  | true =>
      rw [if_pos rfl]
      constructor
      · rintro h - u i rfl hi
        rw [dropIndentation_line, dropIndentation_indentation hi] at h
        simpa using h
      · intro h
        by_cases hmem : '\n' ∈ s
        · obtain ⟨u, i, rfl, hi⟩ := exists_last_line hmem
          rw [dropIndentation_line, dropIndentation_of_no_line hi]
          split
          · next hall => rw [h rfl u i rfl (List.all_eq_true.mp hall)]
          · rfl
        · unfold dropIndentation
          rw [if_neg (by simp [hmem])]

theorem behindKept_eq_iff : options.behindKept t = t ↔ options.SparesBehind t := by
  unfold behindKept SparesBehind
  cases options.trimBlocks with
  | false => simp
  | true =>
      rw [if_pos rfl, forall_prop_of_true rfl]
      unfold dropLineEnd?
      split
      · next rest =>
          constructor
          · intro h
            exact absurd (congrArg List.length h) (by simp only [Option.getD_some, List.length_cons]; omega)
          · rintro ⟨-, h⟩
            exact absurd ⟨rest, rfl⟩ h
      · next rest =>
          constructor
          · intro h
            exact absurd (congrArg List.length h) (by simp only [Option.getD_some, List.length_cons]; omega)
          · rintro ⟨h, -⟩
            exact absurd ⟨rest, rfl⟩ h
      · next hcr hlf =>
          refine ⟨fun _ => ⟨?_, ?_⟩, fun _ => rfl⟩
          · rintro ⟨rest, rfl⟩
            exact hlf rest rfl
          · rintro ⟨rest, rfl⟩
            exact hcr rest rfl

theorem length_insideKept_le (options : Spacing) (s : List Char) :
    (options.insideKept s).length ≤ s.length := by
  have hdrop := (List.dropWhile_sublist (· != '\n') (l := s.reverse)).length_le
  unfold insideKept
  split
  · unfold dropIndentation
    dsimp only
    split
    · rw [List.length_reverse] at hdrop ⊢
      exact hdrop
    · exact le_refl _
  · exact le_refl _

theorem length_behindKept_le (options : Spacing) (t : List Char) :
    (options.behindKept t).length ≤ t.length := by
  unfold behindKept dropLineEnd?
  split
  · split
    · simp only [Option.getD_some, List.length_cons]
      omega
    · simp only [Option.getD_some, List.length_cons]
      omega
    · exact le_refl _
  · exact le_refl _

end Spacing

/-! ### Rendering -/

section
variable {options : Spacing} {name : String}

/-- The elements of a text. -/
def textElements (s : List Char) : List Element :=
  if s.isEmpty then [] else [.text (String.ofList s)]

theorem run_textParts (p : Progress) (s : List Char) :
    p.run (Spacing.textParts s) = .ok { p with elements := p.elements ++ textElements s } := by
  cases s with
  | nil =>
      show Except.ok p = Except.ok { p with elements := p.elements ++ [] }
      rw [List.append_nil]
  | cons c s => rfl

theorem prints_textElements {site : Site} {scope : Scope} {es : List Element} {text : String}
    (s : List Char) (h : Prints site scope es text) :
    Prints site scope (textElements s ++ es) (String.ofList s ++ text) := by
  cases s with
  | nil => exact h.of_eq (String.empty_append).symm
  | cons c s => exact prints_text _ h

theorem parse_keptRaw {s t : String} (hs : HoldsNoEndraw s.toList) (ht : HoldsNoOpening t.toList) :
    parse options name (keptRaw s ++ t) = .ok ⟨name, none,
      textElements (options.insideKept s.toList) ++ textElements (options.behindKept t.toList), []⟩ := by
  obtain ⟨line, line', hcut⟩ := Piece.cut_keptRaw hs ht
  let opening : Tag := ⟨.comment, "raw".toList, line, .keep, .keep⟩
  let closing : Tag := ⟨.comment, "endraw".toList, line', .plain, .plain⟩
  have hinside :
      options.between (some opening) (some closing) s.toList = options.insideKept s.toList := by
    have hafter : options.after opening s.toList = (s.toList, false) := by
      simp [Spacing.after, opening]
    rw [Spacing.between_some, hafter]
    simp [Spacing.upTo, Spacing.before, Spacing.insideKept, closing]
  have hbehind : options.between (some closing) none t.toList = options.behindKept t.toList := by
    rw [Spacing.between_some]
    show (options.after closing t.toList).1 = _
    unfold Spacing.after Spacing.behindKept
    cases options.trimBlocks with
    | false => rfl
    | true => cases Spacing.dropLineEnd? t.toList <;> rfl
  have hparts : options.apply (.tag opening :: (Piece.textPiece s.toList ++
      .tag closing :: Piece.textPiece t.toList)) =
        Spacing.textParts (options.insideKept s.toList) ++ Spacing.textParts (options.behindKept t.toList) := by
    have hnil : Piece.StartWithTag [] := nofun
    show options.applyFrom (some opening) _ = _
    rw [Spacing.applyFrom_textPiece (Piece.startWithTag_cons closing _), ← hinside]
    show _ ++ options.applyFrom (some closing) (Piece.textPiece t.toList) = _
    rw [← List.append_nil (Piece.textPiece t.toList), Spacing.applyFrom_textPiece hnil, ← hbehind]
    exact congrArg _ (List.append_nil _)
  have hrun : Progress.start.run (Spacing.textParts (options.insideKept s.toList) ++
      Spacing.textParts (options.behindKept t.toList)) = .ok ⟨none, [], [],
        textElements (options.insideKept s.toList) ++ textElements (options.behindKept t.toList)⟩ := by
    rw [Progress.run_append, run_textParts]
    exact run_textParts _ _
  have hchars : parseChars options name (keptRaw s ++ t).toList = .ok ⟨name, none,
      textElements (options.insideKept s.toList) ++ textElements (options.behindKept t.toList), []⟩ := by
    unfold parseChars
    rw [hcut]
    dsimp only
    rw [hparts, hrun]
    rfl
  unfold parse
  rw [hchars]

/-- A template without a parent and without blocks is composed as it is. -/
theorem compose_of_no_blocks {source : String → Option Template} {t : Template} (h : source name = some t)
    (hparent : t.parent = none) (hblocks : t.blocks = []) :
    compose source ⟨name, []⟩ = .ok ⟨⟨name, []⟩, t.layout, []⟩ := by
  have hlayers : collectLayers source ⟨name, []⟩ [] (Chain.layers ⟨name, []⟩) = .ok [t] := by
    show collectLayers source ⟨name, []⟩ [] [name] = _
    rw [collectLayers, h]
    rfl
  have hnames : blockNames [t] = [] := by
    unfold blockNames
    rw [List.flatMap_singleton, hblocks]
    rfl
  exact compose_eq_ok_iff.mpr ⟨[t], [], hlayers, hparent, by rw [hnames]; rfl, rfl⟩

/-- A raw section with markers to keep is copied, and so is the text behind it, but for the white space that
the options take off. -/
theorem exists_render_keptRaw (options : Spacing) (contents : String → Option String) (name : String)
    {s t : String} (hs : HoldsNoEndraw s.toList) (ht : HoldsNoOpening t.toList)
    (h : contents name = some (keptRaw s ++ t)) :
    ∃ r, compose (parsed options contents) ⟨name, []⟩ = .ok r ∧ ∀ className context,
      render r className context =
        .ok (String.ofList (options.insideKept s.toList ++ options.behindKept t.toList)) := by
  have hparsed : parsed options contents name = some ⟨name, none,
      textElements (options.insideKept s.toList) ++ textElements (options.behindKept t.toList), []⟩ := by
    unfold parsed
    rw [h, Option.bind_some, parse_keptRaw hs ht]
    rfl
  refine ⟨_, compose_of_no_blocks hparsed rfl rfl, fun className context => render_eq ?_⟩
  have hprints (site : Site) (scope : Scope) : Prints site scope
      (textElements (options.insideKept s.toList) ++ (textElements (options.behindKept t.toList) ++ []))
      (String.ofList (options.insideKept s.toList) ++ (String.ofList (options.behindKept t.toList) ++ "")) :=
    prints_textElements _ (prints_textElements _ prints_nil)
  rw [List.append_nil, String.append_empty, ← String.ofList_append] at hprints
  exact hprints _ _

/-- The text in a raw section with markers to keep, and the text behind it, are copied but for white space at
the end tag. So both are copied as they are if and only if the options spare that: if the indentation before
tags goes, then the text in the section must not end with a line of mere indentation, and if the line end
behind tags goes, then the text behind the section must not start with one. -/
theorem render_keptRaw (options : Spacing) (contents : String → Option String) (name : String)
    {s t : String} (hs : HoldsNoEndraw s.toList) (ht : HoldsNoOpening t.toList)
    (h : contents name = some (keptRaw s ++ t)) :
    ∃ r, compose (parsed options contents) ⟨name, []⟩ = .ok r ∧ ∀ className context,
      render r className context =
        .ok (String.ofList (options.insideKept s.toList ++ options.behindKept t.toList)) ∧
      (render r className context = .ok (s ++ t) ↔
        options.SparesInside s.toList ∧ options.SparesBehind t.toList) := by
  obtain ⟨r, hr, hrender⟩ := exists_render_keptRaw options contents name hs ht h
  refine ⟨r, hr, fun className context => ⟨hrender className context, ?_⟩⟩
  rw [hrender, ← Spacing.insideKept_eq_iff, ← Spacing.behindKept_eq_iff, Except.ok.injEq,
    ← String.toList_inj, String.toList_ofList, String.toList_append]
  constructor
  · intro heq
    have hall := congrArg List.length heq
    rw [List.length_append, List.length_append] at hall
    have hinside := Spacing.length_insideKept_le options s.toList
    have hbehind := Spacing.length_behindKept_le options t.toList
    exact List.append_inj heq (by omega)
  · rintro ⟨hinside, hbehind⟩
    rw [hinside, hbehind]

/-- A text with the openings of tags, and with an end tag that is not closed. -/
theorem render_keptRaw_unclosed_tag :
    HoldsNoEndraw "\x7b\x7b a \x7d\x7d\n\x7b% endraw".toList ∧ HoldsNoOpening " %\x7d".toList ∧
    ∃ r, compose (parsed .standard fun _ =>
        some (keptRaw "\x7b\x7b a \x7d\x7d\n\x7b% endraw" ++ " %\x7d")) ⟨"page", []⟩ = .ok r ∧
      render r "Page" [] = .ok "\x7b\x7b a \x7d\x7d\n\x7b% endraw %\x7d" := by
  have hs : HoldsNoEndraw "\x7b\x7b a \x7d\x7d\n\x7b% endraw".toList :=
    Piece.holdsNoEndraw_iff.mpr (by decide)
  have ht : HoldsNoOpening " %\x7d".toList := fun c kind _ hopening =>
    absurd (hopening.subset List.mem_cons_self) (by decide)
  obtain ⟨r, hr, hrender⟩ := render_keptRaw .standard
    (fun _ => some (keptRaw "\x7b\x7b a \x7d\x7d\n\x7b% endraw" ++ " %\x7d")) "page" hs ht rfl
  refine ⟨hs, ht, r, hr, ?_⟩
  have hinside := Spacing.insideKept_eq_iff.mp
    (show Spacing.standard.insideKept "\x7b\x7b a \x7d\x7d\n\x7b% endraw".toList = _ by decide)
  have hbehind := Spacing.behindKept_eq_iff.mp
    (show Spacing.standard.behindKept " %\x7d".toList = _ by decide)
  exact ((hrender "Page" []).2.mpr ⟨hinside, hbehind⟩).trans rfl

/-- Under the standard options, the indentation of the end tag is lost although the tag asks to keep it. -/
theorem keptRaw_loses_indentation :
    HoldsNoEndraw "a\n  ".toList ∧
    ∃ r, compose (parsed .standard fun _ => some (keptRaw "a\n  ")) ⟨"page", []⟩ = .ok r ∧
      render r "Page" [] = .ok "a\n" ∧ render r "Page" [] ≠ .ok "a\n  " := by
  have hs : HoldsNoEndraw "a\n  ".toList := Piece.holdsNoEndraw_iff.mpr (by decide)
  have ht : HoldsNoOpening "".toList := fun c kind _ hopening =>
    absurd (hopening.subset List.mem_cons_self) (by decide)
  obtain ⟨r, hr, hrender⟩ := exists_render_keptRaw .standard (fun _ => some (keptRaw "a\n  ")) "page"
    hs ht (by rw [String.append_empty])
  have htext : render r "Page" [] = .ok "a\n" := (hrender "Page" []).trans (by decide)
  refine ⟨hs, r, hr, htext, ?_⟩
  rw [htext]
  decide

end

end ClassScribe.Template
