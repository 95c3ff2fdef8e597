import Mathlib.Data.List.Chain
import ClassScribe.Proofs.Schema.BetweenNotes

/-! # Cleaned descriptions in normal form

A cleaned description is singly spaced just if at most one of the texts between its notes is not blank: of two such
texts, the space for the note between them stands next to the space for the line feed behind the note. It stays the
same when it is cleaned again if moreover no line of that text ends with the opening of a note
(`cleanDescription_normal`). -/

namespace ClassScribe.Naming
open Text

variable {s t p : List Char} {ps : List (List Char)} {c : Char}

/-- A text without two characters of white space next to each other. -/
def SinglySpaced (s : List Char) : Prop := s.IsChain fun c d => isBlank c = true → isBlank d = false

/-! ### Single spaces -/

theorem SinglySpaced.within (ht : SinglySpaced t) (hst : s <:+: t) : SinglySpaced s := List.IsChain.infix ht hst

theorem head_collapse (hnote : ¬HasNote s) (hs : ∀ c ∈ s.head?, isBlank c = false) :
    ∀ c ∈ (collapse s).head?, isBlank c = false := by
  cases s with
  | nil => simp [collapse]
  | cons c s =>
      have hc : ¬isBlank c = true := by simp [hs c rfl]
      have hnone : afterNote? (c :: s) = none := by
        rw [Option.eq_none_iff_forall_ne_some]
        exact fun after hafter => hnote (hasNote_cons.mpr (.inl ⟨after, hafter⟩))
      rw [collapse_cons_of_none hc hnone]
      exact hs

theorem singlySpaced_collapse (h : ¬HasNote s) : SinglySpaced (collapse s) := by
  unfold SinglySpaced
  fun_induction collapse s with
  | case1 => exact .nil
  | case2 c hc d more hd ih =>
      rw [hasNote_cons_blank hc, hasNote_cons_blank hd, ← hasNote_dropWhile] at h
      refine List.isChain_cons.mpr ⟨fun x hx _ => head_collapse h (fun y hy => ?_) x hx, ih h⟩
      have hnot := List.head?_dropWhile_not isBlank more
      rw [Option.mem_def.mp hy] at hnot
      exact hnot
  | case3 c hc d more hd ih =>
      rw [hasNote_cons_blank hc] at h
      refine List.isChain_cons.mpr ⟨fun x hx _ => head_collapse h (fun y hy => ?_) x hx, ih h⟩
      rw [← Option.some.inj hy]
      simpa using hd
  | case4 c hc => exact .singleton _
  | case5 c rest hc after hnote ih => exact absurd (hasNote_cons.mpr (.inl ⟨after, hnote⟩)) h
  | case6 c rest hc hnote ih =>
      rw [hasNote_cons_of_none hnote] at h
      exact List.isChain_cons.mpr ⟨fun x _ hblank => absurd hblank hc, ih h⟩

/-- If two texts are kept, the space for the note before the second one stands next to the one for the line feed. -/
theorem not_singlySpaced_of_kept {q : List Char} (h : kept s = p :: q :: ps) :
    ¬SinglySpaced (trim (collapse s)) := by
  obtain ⟨above, rest, hpieces, -, -, hrest⟩ := List.filter_eq_cons_iff.mp h
  obtain ⟨between, below, rfl, -, -, -⟩ := List.filter_eq_cons_iff.mp hrest
  have hp := mem_kept (h ▸ List.mem_cons_self : p ∈ kept s)
  have hq := mem_kept (h ▸ List.mem_cons_of_mem p List.mem_cons_self : q ∈ kept s)
  have hsplit : betweenNotes s = (above ++ p :: between) ++ q :: below := by
    rw [hpieces, List.append_assoc, List.cons_append]
  obtain ⟨b, t, hcollapse, hb, ht⟩ := exists_collapse_of_kept hsplit (by simp) hq.2
  obtain ⟨r, hr, -⟩ := exists_intercalate_cons (collapse q) (below.map collapse)
  have hall : collapse s = [' '].intercalate ((above ++ p :: between).map collapse) ++ ([' ', b] ++ (t ++ r)) := by
    rw [collapse_betweenNotes, hsplit, List.map_append, List.map_cons,
      intercalate_append (by simp) (List.cons_ne_nil _ _), hr, hcollapse]
    rfl
  have hfront : ¬AllBlank ([' '].intercalate ((above ++ p :: between).map collapse)) := by
    intro hblank
    refine hp.2 ((allBlank_collapse_iff hp.1).mp (allBlank_intercalate_iff.mp hblank _ ?_))
    exact List.mem_map_of_mem (List.mem_append_right _ List.mem_cons_self)
  rw [hall, trim_append_between hfront fun h => ht (allBlank_append_iff.mp h).1]
  intro hspaced
  have hpair : SinglySpaced [' ', b] := hspaced.within ⟨_, _, List.append_assoc _ _ _⟩
  have hnot := (List.isChain_cons_cons.mp hpair).1 (by decide)
  rw [hb] at hnot
  cases hnot

/-- A cleaned text is singly spaced just if at most one text is kept. -/
theorem singlySpaced_trim_collapse_iff : SinglySpaced (trim (collapse s)) ↔ (kept s).length ≤ 1 := by
  rcases hkept : kept s with _ | ⟨p, _ | ⟨q, ps⟩⟩
  · rw [trim_collapse_of_kept_nil hkept]
    exact iff_of_true .nil (by simp)
  · rw [trim_collapse_of_kept_singleton hkept]
    have hp := mem_kept (hkept ▸ List.mem_cons_self : p ∈ kept s)
    exact iff_of_true ((singlySpaced_collapse hp.1).within (infix_trim _)) (by simp)
  · exact iff_of_false (not_singlySpaced_of_kept hkept) (by simp)

/-! ### Cleaning again -/

theorem collapse_eq_self (hspaced : SinglySpaced s) (hnote : ¬HasNote s) (hline : '\n' ∉ s) : collapse s = s := by
  unfold SinglySpaced at hspaced
  fun_induction collapse s with
  | case1 => rfl
  | case2 c hc d more hd ih =>
      have hnot := (List.isChain_cons_cons.mp hspaced).1 hc
      rw [hd] at hnot
      cases hnot
  | case3 c hc d more hd ih =>
      rw [hasNote_cons_blank hc] at hnote
      obtain ⟨hne, hline⟩ := not_or.mp (mt List.mem_cons.mpr hline)
      rw [ih (List.isChain_cons.mp hspaced).2 hnote hline, if_neg (Ne.symm hne)]
  | case4 c hc => rw [if_neg fun h => hline (by rw [h]; exact List.mem_cons_self)]
  | case5 c rest hc after hafter ih => exact absurd (hasNote_cons.mpr (.inl ⟨after, hafter⟩)) hnote
  | case6 c rest hc hnone ih =>
      rw [hasNote_cons_of_none hnone] at hnote
      obtain ⟨-, hline⟩ := not_or.mp (mt List.mem_cons.mpr hline)
      rw [ih (List.isChain_cons.mp hspaced).2 hnote hline]

/-- A text on one line that has no white space at its ends is cleaned already just if it is singly spaced and there is
no note in it. -/
theorem trim_collapse_eq_self_iff (htrim : Trimmed s) (hline : '\n' ∉ s) :
    trim (collapse s) = s ↔ SinglySpaced s ∧ ¬HasNote s := by
  constructor
  · intro h
    have hnote : ¬HasNote s := by
      intro hnote
      have hless := (length_ink_collapse s).2 hnote
      conv at hless => rhs; rw [← h]
      rw [trim, ink_trimEnd, ink_trimStart] at hless
      exact Nat.lt_irrefl _ hless
    refine ⟨?_, hnote⟩
    rw [← h]
    exact (singlySpaced_collapse hnote).within (infix_trim _)
  · rintro ⟨hspaced, hnote⟩
    rw [collapse_eq_self hspaced hnote hline, trim_of_trimmed htrim]

/-- If a note is left of a text without notes, it has been made of the opening of one at the end of a line and of what
stands below. -/
theorem exists_opening_of_hasNote (hp : ¬HasNote p) (h : HasNote (trim (collapse p))) :
    ∃ u v, p = u ++ (noteOpening ++ '\n' :: v) ∧ ¬AllBlank v := by
  obtain ⟨x, c, y, htrim, -⟩ := h
  have hlast : ¬AllBlank (c :: y) := by
    intro hblank
    have hend : ∀ d ∈ (c :: y).getLast?, isBlank d = false := by
      intro d hd
      refine (trimmed_trim (collapse p)).2 d ?_
      rw [htrim, List.getLast?_append, List.getLast?_append, Option.mem_def.mp hd]
      rfl
    have hchar := List.getLast?_eq_some_getLast (List.cons_ne_nil c y)
    have hnot := hend _ hchar
    rw [hblank _ (List.getLast_mem _)] at hnot
    cases hnot
  obtain ⟨l, r, -, -, hcollapse⟩ := exists_trim (collapse p)
  have hopening : collapse p = l ++ x ++ (noteOpening ++ c :: (y ++ r)) := by
    rw [hcollapse, htrim]
    simp only [List.append_assoc, List.cons_append]
  obtain ⟨u, v, rfl, hv⟩ := exists_opening_of_collapse hopening
  refine ⟨u, v, rfl, fun hblank => hlast ?_⟩
  have hnote : ¬HasNote ('\n' :: v) := fun h => hp (by simpa using h.append (u ++ noteOpening) [])
  have hall : AllBlank (collapse ('\n' :: v)) :=
    (allBlank_collapse_iff hnote).mpr (List.forall_mem_cons.mpr ⟨by decide, hblank⟩)
  rw [hv, ← List.cons_append] at hall
  exact (allBlank_append_iff.mp hall).1

/-- With a space in the place of the line feed, the opening of a note goes on to what stands below. -/
theorem hasNote_of_opening {u v : List Char} (hp : ¬HasNote (u ++ (noteOpening ++ '\n' :: v))) (hv : ¬AllBlank v) :
    HasNote (trim (collapse (u ++ (noteOpening ++ '\n' :: v)))) := by
  have hend : trimEnd v ≠ [] := trimEnd_ne_nil hv
  have hwords : words (u ++ (noteOpening ++ ' ' :: trimEnd v)) =
      words (trim (collapse (u ++ (noteOpening ++ '\n' :: v)))) := by
    rw [words_trim, words_collapse hp, ← List.append_assoc, ← List.append_assoc, words_append_blank (by decide),
      words_append_blank (by decide), words_trimEnd]
  refine hasNote_of_words_eq ?_ ?_ hwords ⟨u, ' ', trimEnd v, rfl, by decide⟩
  · intro c hc
    rw [List.getLast?_append, List.getLast?_append, List.getLast?_cons, List.getLast?_eq_some_getLast hend] at hc
    refine isBlank_getLast_trimEnd v c ?_
    rw [List.getLast?_eq_some_getLast hend]
    simpa using hc
  · exact fun hline => newline_not_mem_collapse _ ((infix_trim _).subset hline)

/-- There is a note in what is left of a text without notes just if a line of the text ends with the opening of a note,
and something that is not blank stands below. -/
theorem hasNote_trim_collapse_iff (hp : ¬HasNote p) :
    HasNote (trim (collapse p)) ↔ ∃ u v, p = u ++ (noteOpening ++ '\n' :: v) ∧ ¬AllBlank v := by
  refine ⟨exists_opening_of_hasNote hp, ?_⟩
  rintro ⟨u, v, rfl, hv⟩
  exact hasNote_of_opening hp hv

/-- A cleaned description is on one line and has no white space at its ends. It is singly spaced just if at most one of
the texts between the notes of its lines, run together, is not blank. It stays the same when it is cleaned again just
if moreover only white space follows in this text on a line that ends with the opening of a note. -/
theorem cleanDescription_normal (ls : List (List Char)) :
    '\n' ∉ cleanDescription ls ∧ Trimmed (cleanDescription ls) ∧
    (SinglySpaced (cleanDescription ls) ↔ (kept ls.flatten).length ≤ 1) ∧
    (cleanDescription [cleanDescription ls] = cleanDescription ls ↔
      (kept ls.flatten).length ≤ 1 ∧
        ∀ p ∈ kept ls.flatten, ∀ u v, p = u ++ (noteOpening ++ '\n' :: v) → AllBlank v) := by
  have hline := newline_not_mem_cleanDescription ls
  have htrim : Trimmed (cleanDescription ls) := trimmed_trim _
  refine ⟨hline, htrim, singlySpaced_trim_collapse_iff, ?_⟩
  have hagain : cleanDescription [cleanDescription ls] = trim (collapse (cleanDescription ls)) := by
    rw [cleanDescription, List.flatten_singleton]
  rw [hagain, trim_collapse_eq_self_iff htrim hline, cleanDescription, singlySpaced_trim_collapse_iff]
  refine and_congr_right fun hlength => ?_
  rcases hkept : kept ls.flatten with _ | ⟨p, _ | ⟨q, ps⟩⟩
  · rw [trim_collapse_of_kept_nil hkept]
    exact iff_of_true not_hasNote_nil (List.forall_mem_nil _)
  · have hp := mem_kept (hkept ▸ List.mem_cons_self : p ∈ kept ls.flatten)
    rw [trim_collapse_of_kept_singleton hkept, hasNote_trim_collapse_iff hp.1, List.forall_mem_singleton]
    push Not
    rfl
  · rw [hkept] at hlength
    exact absurd hlength (by simp)

/-- A note at the end of a line with text below: three spaces are left of it, and one when they are cleaned again. -/
theorem cleanDescription_widens :
    cleanDescription ["a [@TODO x]\nb".toList] = "a   b".toList ∧ ¬SinglySpaced "a   b".toList ∧
    cleanDescription ["a   b".toList] = "a b".toList := by
  refine ⟨by decide +kernel, ?_, by decide +kernel⟩
  unfold SinglySpaced
  decide +kernel

end ClassScribe.Naming
