import ClassScribe.Proofs.Text.Words
import ClassScribe.Schema.Naming

/-! # Cleaned descriptions

A text without notes keeps its words when it is cleaned (`words_collapse`), and one with a note loses some of them
(`length_ink_collapse`). There may be a note in the cleaned text all the same: the opening of a note at the end of a
line starts none, but the line feed behind it becomes a space (`opening_of_hasNote_collapse`). Whether there is a note
in a line depends on its words alone (`hasNote_of_words_eq`). -/

namespace ClassScribe.Naming
open Text

variable {s t u after : List Char} {ls : List (List Char)} {c : Char}

/-! ### Notes -/

/-- Whether a note starts somewhere in a text: its opening, and at least one character of the same line behind. -/
def HasNote (s : List Char) : Prop := ∃ u c v, s = u ++ (noteOpening ++ c :: v) ∧ c ≠ '\n'

theorem noBlank_noteOpening : NoBlank noteOpening := by
  have hall : noteOpening.all (!isBlank ·) = true := by decide
  exact fun c hc => by simpa using List.all_eq_true.mp hall c hc

theorem afterNote?_eq_some_iff :
    afterNote? s = some after ↔
      ∃ c rest, s = noteOpening ++ c :: rest ∧ c ≠ '\n' ∧ rest.dropWhile (· != '\n') = after := by
  unfold afterNote?
  cases hd : dropLead? noteOpening s with
  | none =>
      refine iff_of_false nofun ?_
      rintro ⟨c, rest, hs, -, -⟩
      rw [dropLead?_eq_some.mpr hs] at hd
      cases hd
  | some r =>
      have hs := dropLead?_eq_some.mp hd
      cases r with
      | nil =>
          refine iff_of_false nofun ?_
          rintro ⟨c, rest, hs', -, -⟩
          cases List.append_cancel_left (hs.symm.trans hs')
      | cons d r =>
          constructor
          · intro h
            by_cases hline : d = '\n'
            · simp only [hline, if_true] at h
              cases h
            · simp only [hline, if_false, Option.some.injEq] at h
              exact ⟨d, r, hs, hline, h⟩
          · rintro ⟨c, rest, hs', hc, rfl⟩
            cases List.append_cancel_left (hs.symm.trans hs')
            exact if_neg hc

theorem not_hasNote_nil : ¬HasNote [] := by
  rintro ⟨u, c, v, h, -⟩
  simp at h

theorem HasNote.append (h : HasNote s) (u v : List Char) : HasNote (u ++ (s ++ v)) := by
  obtain ⟨a, c, b, rfl, hc⟩ := h
  exact ⟨u ++ a, c, b ++ v, by simp only [List.append_assoc, List.cons_append], hc⟩

theorem hasNote_cons : HasNote (c :: s) ↔ (∃ after, afterNote? (c :: s) = some after) ∨ HasNote s := by
  constructor
  · rintro ⟨u, d, v, h, hd⟩
    cases u with
    | nil => exact .inl ⟨_, afterNote?_eq_some_iff.mpr ⟨d, v, h, hd, rfl⟩⟩
    | cons x u => exact .inr ⟨u, d, v, (List.cons.inj h).2, hd⟩
  · rintro (⟨after, h⟩ | h)
    · obtain ⟨d, v, hs, hd, -⟩ := afterNote?_eq_some_iff.mp h
      exact ⟨[], d, v, hs, hd⟩
    · have := h.append [c] []
      rwa [List.append_nil] at this

theorem hasNote_cons_of_none (h : afterNote? (c :: s) = none) : HasNote (c :: s) ↔ HasNote s := by
  rw [hasNote_cons, h]
  simp

theorem afterNote?_blank (hc : isBlank c = true) (s : List Char) : afterNote? (c :: s) = none := by
  rw [← Option.not_isSome_iff_eq_none, Option.isSome_iff_exists]
  rintro ⟨after, h⟩
  obtain ⟨d, v, hs, -⟩ := afterNote?_eq_some_iff.mp h
  rw [(List.cons.inj hs).1] at hc
  exact absurd hc (by decide)

theorem hasNote_cons_blank (hc : isBlank c = true) : HasNote (c :: s) ↔ HasNote s :=
  hasNote_cons_of_none (afterNote?_blank hc s)

theorem hasNote_dropWhile (s : List Char) : HasNote (s.dropWhile isBlank) ↔ HasNote s := by
  induction s with
  | nil => rfl
  | cons c s ih =>
      by_cases hc : isBlank c = true
      · rw [List.dropWhile_cons_of_pos hc, ih, hasNote_cons_blank hc]
      · rw [List.dropWhile_cons_of_neg hc]

theorem not_hasNote_of_no_opening (h : ¬noteOpening <:+: s) : ¬HasNote s := by
  rintro ⟨u, c, v, rfl, -⟩
  exact h ⟨u, c :: v, by rw [List.append_assoc]⟩

/-! ### What cleaning leaves -/

/-- A line feed becomes a space, and all other white space stays white space. -/
theorem isBlank_spaced (hc : isBlank c = true) : isBlank (if c = '\n' then ' ' else c) = true := by
  by_cases h : c = '\n'
  · rw [if_pos h]
    decide
  · rwa [if_neg h]

theorem spaced_ne (c : Char) : (if c = '\n' then ' ' else c) ≠ '\n' := by
  by_cases h : c = '\n'
  · rw [if_pos h]
    decide
  · rwa [if_neg h]

theorem words_dropWhile (s : List Char) : words (s.dropWhile isBlank) = words s := words_trimStart s

/-- Cleaning a text without notes changes nothing but white space. -/
theorem words_collapse (h : ¬HasNote s) : words (collapse s) = words s := by
  suffices hall : ∀ read, wordsFrom read (collapse s) = wordsFrom read s from hall []
  intro read
  fun_induction collapse s generalizing read with
  | case1 => rfl
  | case2 c hc d more hd ih =>
      rw [hasNote_cons_blank hc, hasNote_cons_blank hd, ← hasNote_dropWhile] at h
      rw [wordsFrom_blank (by decide), wordsFrom_blank hc, words_cons_blank hd, ← words_dropWhile more]
      exact congrArg _ (ih h [])
  | case3 c hc d more hd ih =>
      rw [hasNote_cons_blank hc] at h
      rw [wordsFrom_blank (isBlank_spaced hc), wordsFrom_blank hc]
      exact congrArg _ (ih h [])
  | case4 c hc => rw [wordsFrom_blank (isBlank_spaced hc), wordsFrom_blank hc]
  | case5 c rest hc after hnote ih => exact absurd (hasNote_cons.mpr (.inl ⟨after, hnote⟩)) h
  | case6 c rest hc hnote ih =>
      rw [hasNote_cons_of_none hnote] at h
      rw [wordsFrom, wordsFrom, if_neg hc, if_neg hc]
      exact ih h (c :: read)

/-- A cleaned description has the words of its lines run together. -/
theorem words_cleanDescription (h : ¬noteOpening <:+: ls.flatten) :
    words (cleanDescription ls) = words ls.flatten := by
  rw [cleanDescription, words_trim, words_collapse (not_hasNote_of_no_opening h)]

/-- Cleaning adds nothing but white space to a text, and takes more than that away if there is a note in it. -/
theorem length_ink_collapse (s : List Char) :
    (ink (collapse s)).length ≤ (ink s).length ∧
    (HasNote s → (ink (collapse s)).length < (ink s).length) := by
  fun_induction collapse s with
  | case1 => exact ⟨Nat.le_refl _, fun h => absurd h not_hasNote_nil⟩
  | case2 c hc d more hd ih =>
      have hmore : ink (more.dropWhile isBlank) = ink more := ink_trimStart more
      rw [ink_cons_blank (by decide), ink_cons_blank hc, ink_cons_blank hd, ← hmore, hasNote_cons_blank hc,
        hasNote_cons_blank hd, ← hasNote_dropWhile]
      exact ih
  | case3 c hc d more hd ih =>
      rw [ink_cons_blank (isBlank_spaced hc), ink_cons_blank hc, hasNote_cons_blank hc]
      exact ih
  | case4 c hc =>
      rw [ink_cons_blank (isBlank_spaced hc), ink_cons_blank hc, hasNote_cons_blank hc]
      exact ⟨Nat.le_refl _, fun h => absurd h not_hasNote_nil⟩
  | case5 c rest hc after hnote ih =>
      obtain ⟨d, more, hs, -, rfl⟩ := afterNote?_eq_some_iff.mp hnote
      have hopening : (ink noteOpening).length = 6 := by decide
      have hafter : (ink (more.dropWhile (· != '\n'))).length ≤ (ink (d :: more)).length :=
        (((List.dropWhile_suffix _).trans (List.suffix_cons d more)).sublist.filter _).length_le
      have hlt : (ink (' ' :: collapse (more.dropWhile (· != '\n')))).length <
          (ink (noteOpening ++ d :: more)).length := by
        rw [ink_cons_blank (by decide), ink_append, List.length_append, hopening]
        have := ih.1
        omega
      rw [hs]
      exact ⟨Nat.le_of_lt hlt, fun _ => hlt⟩
  | case6 c rest hc hnote ih =>
      rw [ink_cons_of_not_blank hc, ink_cons_of_not_blank hc, hasNote_cons_of_none hnote, List.length_cons,
        List.length_cons]
      exact ⟨Nat.succ_le_succ ih.1, fun h => Nat.succ_lt_succ (ih.2 h)⟩

/-- The word that is being read is part of a word, if there is no white space behind it. -/
theorem exists_wordsFrom (read : List Char) (hc : ¬isBlank c = true) (s : List Char) :
    ∃ v ws, wordsFrom read (c :: s) = (read.reverse ++ c :: v) :: ws := by
  induction s generalizing read c with
  | nil => exact ⟨[], [], by simp [wordsFrom, hc]⟩
  | cons d s ih =>
      rw [wordsFrom, if_neg hc]
      by_cases hd : isBlank d = true
      · exact ⟨[], words s, by rw [wordsFrom_blank hd]; simp [wordsFrom]⟩
      · obtain ⟨v, ws, h⟩ := ih (c :: read) hd
        exact ⟨d :: v, ws, by rw [h]; simp⟩

theorem length_le_of_mem_collapse {n : Nat} (h : ∀ w ∈ words s, w.length ≤ n) :
    ∀ w ∈ words (collapse s), w.length ≤ n := by
  suffices hall : ∀ read, (∀ w ∈ wordsFrom read s, w.length ≤ n) →
      ∀ w ∈ wordsFrom read (collapse s), w.length ≤ n from hall [] h
  clear h
  intro read h
  fun_induction collapse s generalizing read with
  | case1 => exact h
  | case2 c hc d more hd ih =>
      rw [wordsFrom_blank hc, words_cons_blank hd, ← words_dropWhile more, List.forall_mem_append] at h
      rw [wordsFrom_blank (by decide), List.forall_mem_append]
      exact ⟨h.1, ih [] h.2⟩
  | case3 c hc d more hd ih =>
      rw [wordsFrom_blank hc, List.forall_mem_append] at h
      rw [wordsFrom_blank (isBlank_spaced hc), List.forall_mem_append]
      exact ⟨h.1, ih [] h.2⟩
  | case4 c hc =>
      rw [wordsFrom_blank hc] at h
      rwa [wordsFrom_blank (isBlank_spaced hc)]
  | case5 c rest hc after hnote ih =>
      obtain ⟨d, more, hs, -, rfl⟩ := afterNote?_eq_some_iff.mp hnote
      rw [wordsFrom_blank (by decide), List.forall_mem_append]
      constructor
      · -- What has been read is a word now; the opening of the note stood in the same word before.
        obtain ⟨v, ws, hword⟩ := exists_wordsFrom read hc rest
        rw [hword] at h
        have hlength := (List.forall_mem_cons.mp h).1
        intro w hw
        rw [wordsFrom] at hw
        cases read with
        | nil => cases hw
        | cons x read =>
            obtain rfl := List.mem_singleton.mp hw
            rw [List.length_append] at hlength
            omega
      · refine ih [] ?_
        rw [hs, ← List.takeWhile_append_dropWhile (p := (· != '\n')) (l := more)] at h
        cases hline : more.dropWhile (· != '\n') with
        | nil => exact List.forall_mem_nil _
        | cons x below =>
            have hhead := List.head?_dropWhile_not (· != '\n') more
            rw [hline] at hhead
            obtain rfl : x = '\n' := by simpa using hhead
            rw [hline, ← List.cons_append, ← List.append_assoc, wordsFrom_append_blank (by decide),
              List.forall_mem_append] at h
            show ∀ w ∈ words _, _
            rw [words_cons_blank (by decide)]
            exact h.2
  | case6 c rest hc hnote ih =>
      rw [wordsFrom, if_neg hc] at h ⊢
      exact ih (c :: read) h

/-! ### Notes in cleaned texts -/

theorem newline_not_mem_collapse (s : List Char) : '\n' ∉ collapse s := by
  fun_induction collapse s with
  | case1 => exact List.not_mem_nil
  | case2 c hc d more hd ih => exact List.not_mem_cons_of_ne_of_not_mem (by decide) ih
  | case3 c hc d more hd ih => exact List.not_mem_cons_of_ne_of_not_mem (spaced_ne c).symm ih
  | case4 c hc => exact List.not_mem_cons_of_ne_of_not_mem (spaced_ne c).symm List.not_mem_nil
  | case5 c rest hc after hnote ih => exact List.not_mem_cons_of_ne_of_not_mem (by decide) ih
  | case6 c rest hc hnote ih =>
      refine List.not_mem_cons_of_ne_of_not_mem ?_ ih
      rintro rfl
      exact hc (by decide)

theorem collapse_cons_of_none (hc : ¬isBlank c = true) (h : afterNote? (c :: s) = none) :
    collapse (c :: s) = c :: collapse s := by
  generalize hs : c :: s = whole at h
  fun_cases collapse whole with
  | case1 => cases hs
  | case2 d hd | case3 d hd | case4 d hd =>
      cases hs
      exact absurd hd hc
  | case5 d rest hd after hnote =>
      rw [h] at hnote
      cases hnote
  | case6 d rest hd hnote =>
      cases hs
      rfl

/-- A cleaned text starts with white space, or with a character that is kept and starts no note. -/
theorem collapse_cons_cases (c : Char) (s : List Char) :
    (∃ b t, collapse (c :: s) = b :: t ∧ isBlank b = true) ∨
    (afterNote? (c :: s) = none ∧ collapse (c :: s) = c :: collapse s) := by
  generalize hs : c :: s = whole
  fun_cases collapse whole with
  | case1 => cases hs
  | case2 d hd e more he => exact .inl ⟨' ', _, rfl, by decide⟩
  | case3 d hd e more he => exact .inl ⟨_, _, rfl, isBlank_spaced hd⟩
  | case4 d hd => exact .inl ⟨_, _, rfl, isBlank_spaced hd⟩
  | case5 d rest hd after hnote => exact .inl ⟨' ', _, rfl, by decide⟩
  | case6 d rest hd hnote =>
      cases hs
      exact .inr ⟨hnote, rfl⟩

/-- A word at the start of a cleaned text stood at the start of the text. -/
theorem exists_of_collapse_eq {p : List Char} (hp : NoBlank p) (h : collapse s = p ++ t) :
    ∃ r, s = p ++ r ∧ collapse r = t := by
  induction p generalizing s with
  | nil => exact ⟨s, rfl, h⟩
  | cons x p ih =>
      obtain ⟨hx, hword⟩ := List.forall_mem_cons.mp hp
      cases s with
      | nil => simp [collapse] at h
      | cons c s =>
          rcases collapse_cons_cases c s with ⟨b, r, hblank, hb⟩ | ⟨-, hkeep⟩
          · rw [hblank] at h
            rw [(List.cons.inj h).1, hx] at hb
            cases hb
          · rw [hkeep] at h
            obtain ⟨rfl, hrest⟩ := List.cons.inj h
            obtain ⟨r, rfl, hr⟩ := ih hword hrest
            exact ⟨r, rfl, hr⟩

/-- What follows in a cleaned text from some place without white space on has been cleaned by itself. -/
theorem exists_of_collapse_append (hc : isBlank c = false) (h : collapse s = p ++ c :: t) :
    ∃ u v, s = u ++ v ∧ collapse v = c :: t := by
  fun_induction collapse s generalizing p with
  | case1 => simp at h
  | case2 e he d more hd ih =>
      cases p with
      | nil =>
          rw [← (List.cons.inj h).1] at hc
          exact absurd hc (by decide)
      | cons x p =>
          obtain ⟨u, v, hs, hv⟩ := ih (List.cons.inj h).2
          refine ⟨e :: d :: more.takeWhile isBlank ++ u, v, ?_, hv⟩
          rw [List.append_assoc, ← hs, List.cons_append, List.cons_append, List.takeWhile_append_dropWhile]
  | case3 e he d more hd ih =>
      cases p with
      | nil =>
          rw [← (List.cons.inj h).1, isBlank_spaced he] at hc
          cases hc
      | cons x p =>
          obtain ⟨u, v, hs, hv⟩ := ih (List.cons.inj h).2
          exact ⟨e :: u, v, by rw [hs]; rfl, hv⟩
  | case4 e he =>
      cases p with
      | nil =>
          rw [← (List.cons.inj h).1, isBlank_spaced he] at hc
          cases hc
      | cons x p => simp at h
  | case5 e rest he after hnote ih =>
      obtain ⟨d, more, hs, -, hafter⟩ := afterNote?_eq_some_iff.mp hnote
      cases p with
      | nil =>
          rw [← (List.cons.inj h).1] at hc
          exact absurd hc (by decide)
      | cons x p =>
          obtain ⟨u, v, hv, hcollapse⟩ := ih (List.cons.inj h).2
          refine ⟨noteOpening ++ d :: more.takeWhile (· != '\n') ++ u, v, ?_, hcollapse⟩
          rw [hs, List.append_assoc, ← hv, ← hafter, List.append_assoc, List.cons_append,
            List.takeWhile_append_dropWhile]
  | case6 e rest he hnote ih =>
      cases p with
      | nil =>
          refine ⟨[], e :: rest, rfl, ?_⟩
          rw [collapse_cons_of_none he hnote]
          exact h
      | cons x p =>
          obtain ⟨u, v, hs, hv⟩ := ih (List.cons.inj h).2
          exact ⟨e :: u, v, by rw [hs]; rfl, hv⟩

/-- A note in a cleaned text: the opening stood at the end of a line. -/
theorem exists_opening_of_collapse {p : List Char} (h : collapse s = p ++ (noteOpening ++ c :: t)) :
    ∃ u v, s = u ++ (noteOpening ++ '\n' :: v) ∧ collapse ('\n' :: v) = c :: t := by
  have hopening : collapse s = p ++ '[' :: ("@TODO".toList ++ c :: t) := h
  obtain ⟨u, w, rfl, hw⟩ := exists_of_collapse_append (by decide) hopening
  obtain ⟨r, rfl, hr⟩ := exists_of_collapse_eq noBlank_noteOpening (show collapse w = noteOpening ++ c :: t from hw)
  cases r with
  | nil => simp [collapse] at hr
  | cons d v =>
      by_cases hd : d = '\n'
      · rw [hd] at hr
        exact ⟨u, v, by rw [hd], hr⟩
      · -- A space would have been put for the note.
        have hnote : afterNote? ('[' :: ("@TODO".toList ++ d :: v)) = some (v.dropWhile (· != '\n')) :=
          afterNote?_eq_some_iff.mpr ⟨d, v, rfl, hd, rfl⟩
        rcases collapse_cons_cases '[' ("@TODO".toList ++ d :: v) with ⟨b, r, hspace, hb⟩ | ⟨hnone, -⟩
        · rw [(List.cons.inj (hspace.symm.trans hw)).1] at hb
          exact absurd hb (by decide)
        · rw [hnote] at hnone
          cases hnone

/-- If there is a note in a cleaned text, its opening stood at the end of a line. -/
theorem opening_of_hasNote_collapse (h : HasNote (collapse s)) : noteOpening ++ ['\n'] <:+: s := by
  obtain ⟨p, c, t, hcollapse, -⟩ := h
  obtain ⟨u, v, rfl, -⟩ := exists_opening_of_collapse hcollapse
  exact ⟨u, v, by simp only [List.append_assoc, List.singleton_append]⟩

/-- Whether there is a note in a line depends on its words alone: on what stands behind the opening of a note in the
same word, and on whether a word stands behind that word. -/
theorem hasNote_of_words_eq (hlast : ∀ c ∈ s.getLast?, isBlank c = false) (hline : '\n' ∉ t)
    (h : words s = words t) (hs : HasNote s) : HasNote t := by
  obtain ⟨u, c, v, rfl, -⟩ := hs
  obtain ⟨u, x, rfl, hx, hu⟩ := exists_openWord u
  obtain ⟨y, r, hr, hy, hends⟩ := exists_leadWord (c :: v)
  have hword : NoBlank (x ++ (noteOpening ++ y)) := by
    intro d hd
    rcases List.mem_append.mp hd with hd | hd
    · exact hx d hd
    · exact (List.mem_append.mp hd).elim (noBlank_noteOpening d) (hy d)
  have hwords : words (u ++ x ++ (noteOpening ++ c :: v)) =
      words u ++ (x ++ (noteOpening ++ y)) :: words r := by
    rw [hr, ← words_around hu hword (by simp [noteOpening]) hends]
    simp only [List.append_assoc]
  obtain ⟨l, r', rfl, hr'⟩ := exists_word (h.symm.trans hwords)
  have hbehind : y ++ r' ≠ [] := by
    intro hnil
    obtain ⟨rfl, rfl⟩ := List.append_eq_nil_iff.mp hnil
    obtain ⟨d, hd⟩ : ∃ d, (c :: v).getLast? = some d := ⟨_, List.getLast?_eq_some_getLast (List.cons_ne_nil c v)⟩
    have hblank := words_eq_nil_iff.mp hr'.symm d (by rw [List.nil_append] at hr; exact hr ▸ List.mem_of_getLast? hd)
    rw [hlast d (by rw [List.getLast?_append, List.getLast?_append, hd]; rfl)] at hblank
    cases hblank
  obtain ⟨d, v', hd⟩ := List.exists_cons_of_ne_nil hbehind
  refine ⟨l ++ x, d, v', ?_, ?_⟩
  · rw [← hd]
    simp only [List.append_assoc]
  · rintro rfl
    refine hline (List.mem_append_right _ ?_)
    rw [List.append_assoc, List.append_assoc, hd]
    simp

theorem newline_not_mem_cleanDescription (ls : List (List Char)) : '\n' ∉ cleanDescription ls := by
  obtain ⟨l, r, -, -, h⟩ := exists_trim (collapse ls.flatten)
  intro hmem
  refine newline_not_mem_collapse ls.flatten ?_
  rw [h]
  exact List.mem_append_right _ (List.mem_append_left _ hmem)

/-- If there is a note in a cleaned description, its opening stood at the end of a line. -/
theorem opening_of_hasNote_cleanDescription (h : HasNote (cleanDescription ls)) :
    noteOpening ++ ['\n'] <:+: ls.flatten := by
  obtain ⟨l, r, -, -, htrim⟩ := exists_trim (collapse ls.flatten)
  refine opening_of_hasNote_collapse ?_
  rw [htrim]
  exact h.append l r

end ClassScribe.Naming
