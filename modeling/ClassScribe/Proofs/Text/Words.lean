import Mathlib.Data.List.Basic
import ClassScribe.Proofs.Text.Splitting

/-! # Words of texts

A text is made of its words and of white space: at a place with white space the words of the two sides make up
all of them (`words_append_blank`), and what else is said on words here comes from that. Texts that are run
together keep their words just if no word runs on from one text into the next (`words_flatten_iff`); with spaces
between them they always do (`words_intercalate_lines`). -/

namespace ClassScribe.Text

variable {s t w read : List Char} {c : Char} {ls : List (List Char)}

/-! ### White space between words -/

theorem wordsFrom_blank (hc : isBlank c = true) (read s : List Char) :
    wordsFrom read (c :: s) = wordsFrom read [] ++ words s := by
  have hnil : wordsFrom read [] = if read.isEmpty then [] else [read.reverse] := by rw [wordsFrom]
  rw [hnil, wordsFrom, if_pos hc]
  split <;> rfl

theorem wordsFrom_append_blank (hc : isBlank c = true) (read s t : List Char) :
    wordsFrom read (s ++ c :: t) = wordsFrom read s ++ words t := by
  induction s generalizing read with
  | nil => exact wordsFrom_blank hc read t
  | cons d s ih =>
      rw [List.cons_append, wordsFrom, wordsFrom]
      by_cases hd : isBlank d = true
      · rw [if_pos hd, if_pos hd, ih]
        split <;> rfl
      · rw [if_neg hd, if_neg hd, ih]

/-- At white space, the words of a text are those before it and those behind it. -/
theorem words_append_blank (hc : isBlank c = true) (s t : List Char) :
    words (s ++ c :: t) = words s ++ words t := wordsFrom_append_blank hc [] s t

theorem words_cons_blank (hc : isBlank c = true) (s : List Char) : words (c :: s) = words s :=
  words_append_blank hc [] s

theorem words_allBlank_append (hs : AllBlank s) (t : List Char) : words (s ++ t) = words t := by
  induction s with
  | nil => rfl
  | cons c s ih =>
      obtain ⟨hc, hs⟩ := List.forall_mem_cons.mp hs
      rw [List.cons_append, words_cons_blank hc, ih hs]

theorem words_append_allBlank (s : List Char) (ht : AllBlank t) : words (s ++ t) = words s := by
  cases t with
  | nil => rw [List.append_nil]
  | cons c t =>
      obtain ⟨hc, ht⟩ := List.forall_mem_cons.mp ht
      have hnil := words_allBlank_append ht []
      rw [List.append_nil] at hnil
      rw [words_append_blank hc, hnil]
      exact List.append_nil _

theorem words_trimStart (s : List Char) : words (trimStart s) = words s := by
  obtain ⟨l, hl, hs⟩ := exists_trimStart s
  conv_rhs => rw [hs, words_allBlank_append hl]

theorem words_trimEnd (s : List Char) : words (trimEnd s) = words s := by
  obtain ⟨r, hr, hs⟩ := exists_trimEnd s
  conv_rhs => rw [hs, words_append_allBlank _ hr]

theorem words_trim (s : List Char) : words (trim s) = words s := by
  rw [trim, words_trimEnd, words_trimStart]

theorem mem_words (h : w ∈ words s) : NoBlank w ∧ w ≠ [] := by
  suffices hall : ∀ read, NoBlank read → w ∈ wordsFrom read s → NoBlank w ∧ w ≠ [] from
    hall [] (List.forall_mem_nil _) h
  clear h
  intro read hread h
  have hreverse : NoBlank read.reverse := fun c hc => hread c (List.mem_reverse.mp hc)
  induction s generalizing read with
  | nil =>
      rw [wordsFrom] at h
      by_cases hempty : read.isEmpty = true
      · rw [if_pos hempty] at h
        cases h
      · rw [if_neg hempty, List.mem_singleton] at h
        rw [h]
        exact ⟨hreverse, by simpa using hempty⟩
  | cons c s ih =>
      have hnil : NoBlank [] := List.forall_mem_nil _
      rw [wordsFrom] at h
      by_cases hc : isBlank c = true
      · rw [if_pos hc] at h
        by_cases hempty : read.isEmpty = true
        · rw [if_pos hempty] at h
          exact ih [] hnil h hnil
        · rw [if_neg hempty, List.mem_cons] at h
          rcases h with rfl | h
          · exact ⟨hreverse, by simpa using hempty⟩
          · exact ih [] hnil h hnil
      · rw [if_neg hc] at h
        have hcons : NoBlank (c :: read) :=
          List.forall_mem_cons.mpr ⟨Bool.eq_false_iff.mpr hc, hread⟩
        exact ih (c :: read) hcons h fun d hd => hcons d (List.mem_reverse.mp hd)

/-! ### Texts in a row -/

/-- Whether no word goes on from a text into another one: white space, or nothing, stands on one side of the
place between them. -/
def Apart (s t : List Char) : Prop :=
  (∀ c ∈ s.getLast?, isBlank c = true) ∨ ∀ c ∈ t.head?, isBlank c = true

/-- Whether no word goes on from some texts into the ones behind them, wherever the texts are parted. -/
def KeepApart (ls : List (List Char)) : Prop :=
  ∀ above below, ls = above ++ below → Apart above.flatten below.flatten

theorem words_append_of_apart (h : Apart s t) : words (s ++ t) = words s ++ words t := by
  rcases h with h | h
  · rcases List.eq_nil_or_concat s with rfl | ⟨u, c, rfl⟩
    · rfl
    · rw [List.concat_eq_append] at h ⊢
      have hc : isBlank c = true := h c List.getLast?_concat
      rw [List.append_assoc, List.singleton_append, words_append_blank hc, words_append_blank hc]
      simp [words, wordsFrom]
  · cases t with
    | nil => rw [List.append_nil]; simp [words, wordsFrom]
    | cons c t =>
        have hc : isBlank c = true := h c rfl
        rw [words_append_blank hc, words_cons_blank hc]

theorem words_around {u r : List Char} (hu : ∀ c ∈ u.getLast?, isBlank c = true) (hw : NoBlank w) (hne : w ≠ [])
    (hr : ∀ c ∈ r.head?, isBlank c = true) : words (u ++ (w ++ r)) = words u ++ w :: words r := by
  rw [words_append_of_apart (.inl hu), words_append_of_apart (.inr hr), words_of_noBlank hw hne]
  rfl

/-- A text without the word it starts with, if it starts with one. -/
theorem exists_leadWord (s : List Char) :
    ∃ w r, s = w ++ r ∧ NoBlank w ∧ ∀ c ∈ r.head?, isBlank c = true := by
  obtain ⟨r, hs, hr, -⟩ := exists_splitAtBlank s
  exact ⟨_, r, hs, fun c hc => by simpa using List.mem_takeWhile_imp hc, hr⟩

theorem exists_openWord (s : List Char) :
    ∃ u w, s = u ++ w ∧ NoBlank w ∧ ∀ c ∈ u.getLast?, isBlank c = true := by
  obtain ⟨w, r, hreverse, hw, hr⟩ := exists_leadWord s.reverse
  refine ⟨r.reverse, w.reverse, ?_, ?_, ?_⟩
  · rw [← List.reverse_append, ← hreverse, List.reverse_reverse]
  · exact fun c hc => hw c (List.mem_reverse.mp hc)
  · rw [List.getLast?_reverse]
    exact hr

theorem exists_lastWord (hs : ∃ c ∈ s.getLast?, isBlank c = false) :
    ∃ u w, s = u ++ w ∧ NoBlank w ∧ w ≠ [] ∧ ∀ c ∈ u.getLast?, isBlank c = true := by
  obtain ⟨u, w, rfl, hw, hu⟩ := exists_openWord s
  refine ⟨u, w, rfl, hw, ?_, hu⟩
  rintro rfl
  obtain ⟨c, hc, hblank⟩ := hs
  rw [List.append_nil] at hc
  rw [hu c hc] at hblank
  cases hblank

theorem words_eq_nil_iff : words s = [] ↔ AllBlank s := by
  constructor
  · intro h
    by_contra hs
    have htrim : trim s ≠ [] := by
      intro hnil
      obtain ⟨l, r, hl, hr, hsource⟩ := exists_trim s
      rw [hnil, List.nil_append] at hsource
      exact hs (hsource ▸ fun c hc => (List.mem_append.mp hc).elim (hl c) (hr c))
    have hlast := (trimmed_trim s).2 _ (List.getLast?_eq_some_getLast htrim)
    obtain ⟨u, w, htrimmed, hw, hne, hu⟩ := exists_lastWord ⟨_, List.getLast?_eq_some_getLast htrim, hlast⟩
    rw [← words_trim, htrimmed, words_append_of_apart (.inl hu), words_of_noBlank hw hne] at h
    simp at h
  · intro h
    have hwords := words_allBlank_append h []
    rwa [List.append_nil] at hwords

theorem words_ne_nil (h : ∃ c ∈ s, isBlank c = false) : words s ≠ [] := by
  obtain ⟨c, hc, hblank⟩ := h
  intro hnil
  have hall := words_eq_nil_iff.mp hnil c hc
  rw [hblank] at hall
  cases hall

/-- If a word goes on from a text into the next one, there is one word less than in the two texts. -/
theorem length_words_append (h : ¬Apart s t) :
    (words (s ++ t)).length + 1 = (words s).length + (words t).length := by
  unfold Apart at h
  push Not at h
  obtain ⟨⟨c, hc, hcblank⟩, d, hd, hdblank⟩ := h
  obtain ⟨u, w, rfl, hw, hwne, hu⟩ := exists_lastWord ⟨c, hc, by simpa using hcblank⟩
  obtain ⟨w', r, rfl, hw', hr⟩ := exists_leadWord t
  have hwne' : w' ≠ [] := by
    rintro rfl
    exact hdblank (hr d hd)
  have hjoined : NoBlank (w ++ w') := fun c hc => (List.mem_append.mp hc).elim (hw c) (hw' c)
  have hall : words (u ++ w ++ (w' ++ r)) = words u ++ (w ++ w') :: words r := by
    rw [← words_around hu hjoined (by simp [hwne]) hr]
    simp only [List.append_assoc]
  rw [hall, words_append_of_apart (.inl hu), words_of_noBlank hw hwne, words_append_of_apart (.inr hr),
    words_of_noBlank hw' hwne']
  simp only [List.length_append, List.length_cons, List.length_nil]
  omega

theorem length_words_append_le (s t : List Char) :
    (words (s ++ t)).length ≤ (words s).length + (words t).length := by
  by_cases h : Apart s t
  · rw [words_append_of_apart h, List.length_append]
  · have := length_words_append h
    omega

theorem KeepApart.tail {l : List Char} (h : KeepApart (l :: ls)) : KeepApart ls := by
  intro above below hls
  rcases h (l :: above) below (by rw [hls]; rfl) with hlast | hhead
  · refine .inl fun c hc => hlast c ?_
    rw [List.flatten_cons, List.getLast?_append, Option.mem_def.mp hc]
    rfl
  · exact .inr hhead

theorem KeepApart.head {l : List Char} (h : KeepApart (l :: ls)) : Apart l ls.flatten := by
  have hparted := h [l] ls rfl
  rwa [List.flatten_singleton] at hparted

theorem KeepApart.cons {l : List Char} (hhead : Apart l ls.flatten) (h : KeepApart ls) :
    KeepApart (l :: ls) := by
  intro above below hls
  cases above with
  | nil => exact .inl nofun
  | cons a above =>
      rw [List.cons_append, List.cons.injEq] at hls
      obtain ⟨rfl, hls⟩ := hls
      rw [List.flatten_cons]
      by_cases hflat : above.flatten = []
      · rwa [hls, List.flatten_append, hflat, List.nil_append, ← List.append_nil l, ← hflat] at hhead
      · have hparted := h above below hls
        unfold Apart at hparted ⊢
        rwa [List.getLast?_append, List.getLast?_eq_some_getLast hflat, Option.some_or,
          ← List.getLast?_eq_some_getLast hflat]

theorem length_words_flatten_le (ls : List (List Char)) :
    (words ls.flatten).length ≤ (ls.flatMap words).length := by
  induction ls with
  | nil => exact Nat.le_refl 0
  | cons l ls ih =>
      rw [List.flatten_cons, List.flatMap_cons, List.length_append]
      have := length_words_append_le l ls.flatten
      omega

/-- Texts that are run together have the words of the texts, one after the other, just if no word runs on
from one text into another. -/
theorem words_flatten_iff : words ls.flatten = ls.flatMap words ↔ KeepApart ls := by
  induction ls with
  | nil =>
      refine ⟨fun _ above below h => ?_, fun _ => rfl⟩
      obtain ⟨rfl, rfl⟩ := List.append_eq_nil_iff.mp h.symm
      exact .inl nofun
  | cons l ls ih =>
      rw [List.flatten_cons, List.flatMap_cons]
      constructor
      · intro h
        have hlength := congrArg List.length h
        rw [List.length_append] at hlength
        have hle := length_words_flatten_le ls
        have hapart : Apart l ls.flatten := by
          by_contra hnot
          have := length_words_append hnot
          omega
        rw [words_append_of_apart hapart] at h
        exact .cons hapart (ih.mp (List.append_cancel_left h))
      · intro h
        rw [words_append_of_apart h.head, ih.mpr h.tail]

/-- A word that stands in texts that keep their words apart stands in one of them. -/
theorem exists_infix_of_flatten (h : KeepApart ls) (hw : NoBlank w) (hne : w ≠ [])
    (hinside : w <:+: ls.flatten) : ∃ l ∈ ls, w <:+: l := by
  induction ls with
  | nil => exact absurd (List.infix_nil.mp hinside) hne
  | cons l ls ih =>
      obtain ⟨u, v, huv⟩ := hinside
      rw [List.flatten_cons] at huv
      have hfirst : w <:+: l ∨ w <:+: ls.flatten := by
        rcases List.append_eq_append_iff.mp huv with ⟨k, hk, -⟩ | ⟨k, hk, hk'⟩
        · exact .inl ⟨u, k, hk.symm⟩
        · rcases List.append_eq_append_iff.mp hk with ⟨j, hj, rfl⟩ | ⟨j, -, hj⟩
          · rcases List.eq_nil_or_concat j with rfl | ⟨j, c, rfl⟩
            · exact .inr ⟨[], v, by rw [hk']; rfl⟩
            cases k with
            | nil => exact .inl ⟨u, [], by rw [hj, List.append_nil, List.append_nil]⟩
            | cons d k =>
                -- The word would go on from the first text into the others.
                have hc : isBlank c = false := hw c (by simp)
                have hd : isBlank d = false := hw d (by simp)
                have hapart := h.head
                rw [hj, hk'] at hapart
                rcases hapart with hlast | hhead
                · rw [hlast c (by simp)] at hc
                  cases hc
                · rw [hhead d rfl] at hd
                  cases hd
          · exact .inr ⟨j, v, by rw [hk', hj]⟩
      rcases hfirst with hfirst | hrest
      · exact ⟨l, List.mem_cons_self, hfirst⟩
      · obtain ⟨m, hm, hinside⟩ := ih h.tail hrest
        exact ⟨m, List.mem_cons_of_mem _ hm, hinside⟩

/-! ### Texts with spaces between them -/

theorem intercalate_append_head (l m : List Char) (ms : List (List Char)) :
    [' '].intercalate ((l ++ m) :: ms) = l ++ [' '].intercalate (m :: ms) := by
  cases ms with
  | nil => rw [List.intercalate_singleton, List.intercalate_singleton]
  | cons k ms => simp only [List.intercalate_cons_cons, List.append_assoc]

theorem intercalate_append {ms : List (List Char)} (hls : ls ≠ []) (hms : ms ≠ []) :
    [' '].intercalate (ls ++ ms) = [' '].intercalate ls ++ ' ' :: [' '].intercalate ms := by
  induction ls with
  | nil => exact absurd rfl hls
  | cons l ls ih =>
      by_cases hnil : ls = []
      · rw [hnil, List.singleton_append, List.intercalate_cons_of_ne_nil hms, List.intercalate_singleton,
          List.append_assoc]
        rfl
      · rw [List.cons_append, List.intercalate_cons_of_ne_nil (List.append_ne_nil_of_left_ne_nil hnil ms), ih hnil,
          List.intercalate_cons_of_ne_nil hnil]
        simp only [List.append_assoc]

theorem allBlank_intercalate_iff : AllBlank ([' '].intercalate ls) ↔ ∀ l ∈ ls, AllBlank l := by
  induction ls with
  | nil => exact iff_of_true (List.forall_mem_nil _) (List.forall_mem_nil _)
  | cons l ls ih =>
      by_cases hls : ls = []
      · rw [hls, List.intercalate_singleton, List.forall_mem_singleton]
      · rw [List.intercalate_cons_of_ne_nil hls, allBlank_append_iff, allBlank_append_iff, ih, List.forall_mem_cons]
        exact and_congr_left fun _ => and_iff_left allBlank_space

/-- Behind a text there are other texts with spaces, which are white space if these texts are. -/
theorem exists_intercalate_cons (l : List Char) (ls : List (List Char)) :
    ∃ r, [' '].intercalate (l :: ls) = l ++ r ∧ ((∀ m ∈ ls, AllBlank m) → AllBlank r) := by
  by_cases hls : ls = []
  · refine ⟨[], ?_, fun _ => List.forall_mem_nil _⟩
    rw [hls, List.intercalate_singleton, List.append_nil]
  · refine ⟨[' '] ++ [' '].intercalate ls, ?_, fun h => ?_⟩
    · rw [List.intercalate_cons_of_ne_nil hls, List.append_assoc]
    · exact allBlank_append_iff.mpr ⟨allBlank_space, allBlank_intercalate_iff.mpr h⟩

/-- In front of texts there are other texts with spaces, which are white space if these texts are. -/
theorem exists_intercalate_append (ls : List (List Char)) {ms : List (List Char)} (hms : ms ≠ []) :
    ∃ l, [' '].intercalate (ls ++ ms) = l ++ [' '].intercalate ms ∧ ((∀ m ∈ ls, AllBlank m) → AllBlank l) := by
  by_cases hls : ls = []
  · refine ⟨[], ?_, fun _ => List.forall_mem_nil _⟩
    rw [hls]
    rfl
  · refine ⟨[' '].intercalate ls ++ [' '], ?_, fun h => ?_⟩
    · rw [intercalate_append hls hms, List.append_assoc]
      rfl
    · exact allBlank_append_iff.mpr ⟨allBlank_intercalate_iff.mpr h, allBlank_space⟩

/-! ### Words with spaces between them -/

theorem exists_firstWord {ws : List (List Char)} (h : words s = w :: ws) :
    ∃ l r, s = l ++ (w ++ r) ∧ words r = ws := by
  obtain ⟨l, hl, hs⟩ := exists_trimStart s
  obtain ⟨first, r, hr, hword, hends⟩ := exists_leadWord (trimStart s)
  rw [← words_trimStart] at h
  by_cases hnil : first = []
  · -- Without a first word there would be no text behind the white space.
    rw [hnil, List.nil_append] at hr
    have hnone : trimStart s = [] := by
      cases hstart : trimStart s with
      | nil => rfl
      | cons c t =>
          have hhead := List.head?_dropWhile_not isBlank s
          rw [show s.dropWhile isBlank = c :: t from hstart] at hhead
          have hblank := hends c (by rw [← hr, hstart]; rfl)
          rw [show isBlank c = false from hhead] at hblank
          cases hblank
    rw [hnone] at h
    cases h
  · rw [hr, words_append_of_apart (.inr hends), words_of_noBlank hword hnil] at h
    obtain ⟨hw, hws⟩ := List.cons.inj h
    exact ⟨l, r, by rw [← hw, ← hr, ← hs], hws⟩

theorem exists_word {above below : List (List Char)} (h : words s = above ++ w :: below) :
    ∃ l r, s = l ++ (w ++ r) ∧ words r = below := by
  induction above generalizing s with
  | nil => exact exists_firstWord h
  | cons x above ih =>
      obtain ⟨l, r, rfl, hr⟩ := exists_firstWord h
      obtain ⟨l', r', rfl, hr'⟩ := ih hr
      exact ⟨l ++ (x ++ l'), r', by simp only [List.append_assoc], hr'⟩

/-- Texts with a space between two of them have the words of the texts. -/
theorem words_intercalate_lines (ls : List (List Char)) : words ([' '].intercalate ls) = ls.flatMap words := by
  induction ls with
  | nil => rfl
  | cons l ls ih =>
      by_cases hls : ls = []
      · rw [hls, List.intercalate_singleton, List.flatMap_singleton]
      · rw [List.intercalate_cons_of_ne_nil hls, List.append_assoc, List.singleton_append,
          words_append_blank (by decide), ih, List.flatMap_cons]

/-- Words with a space between two of them are the words of that text. -/
theorem words_intercalate {ws : List (List Char)} (h : ∀ w ∈ ws, NoBlank w ∧ w ≠ []) :
    words ([' '].intercalate ws) = ws := by
  have hwords : ∀ w ∈ ws, words w = [w] := fun w hw => words_of_noBlank (h w hw).1 (h w hw).2
  rw [words_intercalate_lines, List.flatMap_congr hwords, List.flatMap_singleton']

theorem isBlank_getLast_intercalate {ws : List (List Char)} (h : ∀ w ∈ ws, NoBlank w ∧ w ≠ []) :
    ∀ c ∈ ([' '].intercalate ws).getLast?, isBlank c = false := by
  induction ws with
  | nil => exact nofun
  | cons w ws ih =>
      obtain ⟨⟨hw, -⟩, hws⟩ := List.forall_mem_cons.mp h
      intro c hc
      cases ws with
      | nil =>
          rw [List.intercalate_singleton] at hc
          exact hw c (List.mem_of_getLast? hc)
      | cons x ws =>
          have hne : [' '].intercalate (x :: ws) ≠ [] := by
            intro hnil
            have hwords := words_intercalate hws
            rw [hnil] at hwords
            cases hwords
          rw [List.intercalate_cons_cons, List.getLast?_append, List.getLast?_eq_some_getLast hne,
            Option.some_or, ← List.getLast?_eq_some_getLast hne] at hc
          exact ih hws c hc

theorem trimmed_intercalate {ws : List (List Char)} (h : ∀ w ∈ ws, NoBlank w ∧ w ≠ []) :
    Trimmed ([' '].intercalate ws) := by
  refine ⟨fun c hc => ?_, isBlank_getLast_intercalate h⟩
  cases ws with
  | nil => cases hc
  | cons w ws =>
      obtain ⟨hw, hne⟩ := h w List.mem_cons_self
      obtain ⟨r, hr, -⟩ := exists_intercalate_cons w ws
      rw [hr, List.head?_append_of_ne_nil w hne] at hc
      exact hw c (List.mem_of_head? hc)

theorem newline_not_mem_intercalate {ws : List (List Char)} (h : ∀ w ∈ ws, NoBlank w) :
    '\n' ∉ [' '].intercalate ws := by
  have hword {w : List Char} (hw : NoBlank w) : '\n' ∉ w := fun hmem => absurd (hw _ hmem) (by decide)
  induction ws with
  | nil => exact List.not_mem_nil
  | cons w ws ih =>
      obtain ⟨hw, hws⟩ := List.forall_mem_cons.mp h
      cases ws with
      | nil =>
          rw [List.intercalate_singleton]
          exact hword hw
      | cons x ws =>
          rw [List.intercalate_cons_cons, List.mem_append, List.mem_append]
          rintro ((hmem | hmem) | hmem)
          · exact hword hw hmem
          · exact absurd (List.mem_singleton.mp hmem) (by decide)
          · exact ih hws hmem

theorem flatten_words (s : List Char) : (words s).flatten = ink s := by
  suffices hall : ∀ read, NoBlank read → (wordsFrom read s).flatten = read.reverse ++ ink s from
    hall [] (List.forall_mem_nil _)
  intro read hread
  induction s generalizing read with
  | nil =>
      rw [wordsFrom]
      cases read with
      | nil => rfl
      | cons c read => exact List.flatten_singleton.trans (List.append_nil _).symm
  | cons c s ih =>
      have hnil := ih [] (List.forall_mem_nil _)
      rw [wordsFrom]
      by_cases hc : isBlank c = true
      · rw [if_pos hc, ink_cons_blank hc]
        cases read with
        | nil => exact hnil
        | cons d read =>
            show ((d :: read).reverse :: wordsFrom [] s).flatten = _
            rw [List.flatten_cons, hnil]
            rfl
      · rw [if_neg hc, ih _ (List.forall_mem_cons.mpr ⟨Bool.eq_false_iff.mpr hc, hread⟩),
          ink_cons_of_not_blank hc]
        simp

end ClassScribe.Text
