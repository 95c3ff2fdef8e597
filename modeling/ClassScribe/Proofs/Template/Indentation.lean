import ClassScribe.Proofs.Template.Junction

/-! # White space and lines

What the options for white space take off a text at the end of one line does not depend on the other lines.
Behind the end of a line, a text keeps the white space that it would have at the start of a template
(`exists_between_line`). -/

namespace ClassScribe.Template.Spacing

/-! ### Last lines and first line ends -/

section
variable {options : Spacing} {tag : Tag} {s t u : List Char}

theorem takeWhile_line (s t : List Char) :
    (s ++ '\n' :: t).takeWhile (· != '\n') = s.takeWhile (· != '\n') := by
  induction s with
  | nil => rfl
  | cons c s ih => rw [List.cons_append, List.takeWhile_cons, List.takeWhile_cons, ih]

theorem dropWhile_line (s t : List Char) :
    (s ++ '\n' :: t).dropWhile (· != '\n') = s.dropWhile (· != '\n') ++ '\n' :: t := by
  induction s with
  | nil => rfl
  | cons c s ih =>
      rw [List.cons_append, List.dropWhile_cons, List.dropWhile_cons, ih]
      split <;> rfl

/-- Indentation is taken off a last line that starts the text or not, but never more than that line. -/
theorem dropIndentation_line (atLineStart : Bool) (u t : List Char) :
    dropIndentation atLineStart (u ++ '\n' :: t) = u ++ '\n' :: dropIndentation true t := by
  have hreverse : (u ++ '\n' :: t).reverse = t.reverse ++ '\n' :: u.reverse := by simp
  have hline : (u ++ '\n' :: t).contains '\n' = true := by simp
  unfold dropIndentation
  rw [hreverse, takeWhile_line, dropWhile_line, hline]
  simp only [Bool.or_true, Bool.true_or, Bool.true_and]
  split
  · simp
  · rfl

theorem dropIndentation_indentation (h : ∀ c ∈ s, isIndentation c = true) : dropIndentation true s = [] := by
  have hline : ∀ c ∈ s.reverse, (c != '\n') = true := by
    intro c hc
    have hi := h c (List.mem_reverse.mp hc)
    rw [bne_iff_ne]
    rintro rfl
    exact absurd hi (by decide)
  have hall : s.reverse.all isIndentation = true :=
    List.all_eq_true.mpr fun c hc => h c (List.mem_reverse.mp hc)
  unfold dropIndentation
  rw [List.takeWhile_eq_self_iff.mpr hline, List.dropWhile_eq_nil_iff.mpr hline]
  dsimp only
  rw [hall]
  rfl

theorem dropLineEnd?_line (u : List Char) :
    (∀ t, dropLineEnd? (u ++ '\n' :: t) = some t) ∨
    (∃ v, ∀ t, dropLineEnd? (u ++ '\n' :: t) = some (v ++ '\n' :: t)) ∨
    ∀ t, dropLineEnd? (u ++ '\n' :: t) = none := by
  cases u with
  | nil => exact .inl fun t => rfl
  | cons c u =>
      by_cases hc : c = '\n'
      · subst hc
        exact .inr (.inl ⟨u, fun t => rfl⟩)
      · by_cases hr : c = '\r'
        · subst hr
          cases u with
          | nil => exact .inl fun t => rfl
          | cons d u =>
              by_cases hd : d = '\n'
              · subst hd
                exact .inr (.inl ⟨u, fun t => rfl⟩)
              · exact .inr (.inr fun t => by simp [dropLineEnd?, hd])
        · exact .inr (.inr fun t => by simp [dropLineEnd?, hc, hr])

/-! ### Texts between tags -/

/-- A text up to the next tag, or the end of the template. -/
def upTo (options : Spacing) (next : Option Tag) (atLineStart : Bool) (s : List Char) : List Char :=
  match next with
  | some tag => before options tag atLineStart s
  | none => s

theorem between_none (options : Spacing) (next : Option Tag) (s : List Char) :
    between options none next s = upTo options next true s := rfl

theorem between_some (options : Spacing) (tag : Tag) (next : Option Tag) (s : List Char) :
    between options (some tag) next s =
      upTo options next (after options tag s).2 (after options tag s).1 := rfl

theorem after_line (options : Spacing) (htag : tag.right ≠ .trim) (u : List Char) :
    (∀ t, after options tag (u ++ '\n' :: t) = (t, true)) ∨
    ∃ v atLineStart, ∀ t, after options tag (u ++ '\n' :: t) = (v ++ '\n' :: t, atLineStart) := by
  unfold after
  simp only [if_neg htag]
  split
  · rcases dropLineEnd?_line u with h | ⟨v, h⟩ | h
    · exact .inl fun t => by rw [h]
    · exact .inr ⟨v, true, fun t => by rw [h]⟩
    · exact .inr ⟨u, false, fun t => by rw [h]⟩
  · exact .inr ⟨u, false, fun t => rfl⟩

theorem before_line (htag : tag.left ≠ .trim) (atLineStart : Bool) (u t : List Char) :
    before options tag atLineStart (u ++ '\n' :: t) = u ++ '\n' :: before options tag true t := by
  unfold before
  rw [if_neg htag, if_neg htag]
  split
  · exact dropIndentation_line atLineStart u t
  · rfl

/-- Behind a text that ends a line, the tag that is next takes off no more than what is on its own line. -/
theorem upTo_line {next : Option Tag} (hnext : ∀ t ∈ next, t.left ≠ .trim) (atLineStart : Bool)
    (u s : List Char) :
    upTo options next atLineStart (u ++ '\n' :: s) = u ++ '\n' :: upTo options next true s := by
  cases next with
  | none => rfl
  | some tag => exact before_line (hnext tag rfl) atLineStart u s

/-- What is behind the end of a line has the white space that it would have at the start of a template. -/
theorem exists_between_line (options : Spacing) {previous : Option Tag}
    (hprevious : ∀ t ∈ previous, t.right ≠ .trim) (u : List Char) :
    ∃ v, ∀ (next : Option Tag) (s : List Char), (∀ t ∈ next, t.left ≠ .trim) →
      between options previous next (u ++ '\n' :: s) = v ++ between options none next s := by
  cases previous with
  | none =>
      refine ⟨u ++ ['\n'], fun next s hnext => ?_⟩
      rw [between_none, between_none, upTo_line hnext, List.append_cons]
  | some tag =>
      rcases after_line options (hprevious tag rfl) u with h | ⟨v, atLineStart, h⟩
      · refine ⟨[], fun next s _ => ?_⟩
        rw [between_some, between_none, h]
        rfl
      · refine ⟨v ++ ['\n'], fun next s hnext => ?_⟩
        rw [between_some, between_none, h, upTo_line hnext, List.append_cons]

end

/-! ### Pieces in a row -/

section
variable {options : Spacing}

theorem between_nil (options : Spacing) (previous next : Option Tag) :
    between options previous next [] = [] := by
  have hbefore (tag : Tag) (atLineStart : Bool) : before options tag atLineStart [] = [] := by
    unfold before dropIndentation
    split_ifs <;> simp [Text.trimEnd, Text.dropEndWhile]
  have hnext (atLineStart : Bool) : upTo options next atLineStart [] = [] := by
    cases next with
    | none => rfl
    | some tag => exact hbefore tag atLineStart
  cases previous with
  | none => exact hnext true
  | some tag =>
      have hafter : (after options tag []).1 = [] := by
        unfold after
        split_ifs <;> rfl
      rw [between_some, hafter, hnext]

theorem applyFrom_append_tag (previous : Option Tag) (ps : List Piece) (tag : Tag) (qs : List Piece) :
    applyFrom options previous (ps ++ .tag tag :: qs) =
      applyFrom options previous (ps ++ [.tag tag]) ++ applyFrom options (some tag) qs := by
  induction ps generalizing previous with
  | nil => simp [applyFrom]
  | cons p ps ih =>
      cases p with
      | tag t => rw [List.cons_append, List.cons_append, applyFrom, applyFrom, ih, List.append_assoc]
      | text s =>
          have hlead : leadTag? (ps ++ .tag tag :: qs) = leadTag? (ps ++ [.tag tag]) := by
            cases ps with
            | nil => rfl
            | cons p ps => cases p <;> rfl
          rw [List.cons_append, List.cons_append, applyFrom, applyFrom, hlead, ih, List.append_assoc]

theorem applyFrom_textPiece {qs : List Piece} (hqs : Piece.StartWithTag qs) (previous : Option Tag)
    (s : List Char) : applyFrom options previous (Piece.textPiece s ++ qs) =
      textParts (between options previous (leadTag? qs) s) ++ applyFrom options none qs := by
  cases s with
  | cons c s => rfl
  | nil =>
      rw [between_nil]
      show applyFrom options previous qs = applyFrom options none qs
      cases qs with
      | nil => rfl
      | cons q qs =>
          cases q with
          | tag t => rfl
          | text s => exact absurd rfl (hqs s)

end

end ClassScribe.Template.Spacing
