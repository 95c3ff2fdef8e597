import ClassScribe.Proofs.Schema.Cleaning

/-! # Texts between notes

Cleaning puts a space for every note, and cleans the texts between the notes by themselves (`collapse_betweenNotes`).
Of the ones that are not blank something is left. Behind a note such a text starts with the line feed that ends the
note, for which there is a space of its own (`exists_collapse_of_kept`). -/

namespace ClassScribe.Naming
open Text

variable {s t p after : List Char} {c d : Char}

/-- The texts before, between and behind the notes of a text. -/
def betweenNotes : List Char → List (List Char)
  | [] => [[]]
  | c :: rest =>
    match _h : afterNote? (c :: rest) with
    | some after => [] :: betweenNotes after
    | none => (betweenNotes rest).modifyHead (c :: ·)
termination_by s => s.length
decreasing_by
  · exact length_afterNote? _h
  · simp

/-- The texts between the notes of a text that are not blank. -/
def kept (s : List Char) : List (List Char) := (betweenNotes s).filter (!isAllBlank ·)

/-! ### Texts between notes -/

theorem betweenNotes_of_note (h : afterNote? (c :: s) = some after) :
    betweenNotes (c :: s) = [] :: betweenNotes after := by
  rw [betweenNotes]
  split
  · next hafter =>
      rw [h] at hafter
      rw [Option.some.inj hafter]
  · next hnone =>
      rw [h] at hnone
      cases hnone

theorem betweenNotes_of_none (h : afterNote? (c :: s) = none) :
    betweenNotes (c :: s) = (betweenNotes s).modifyHead (c :: ·) := by
  rw [betweenNotes]
  split
  · next hafter =>
      rw [h] at hafter
      cases hafter
  · rfl

theorem exists_betweenNotes (s : List Char) : ∃ p ps, betweenNotes s = p :: ps ∧ p <+: s := by
  fun_induction betweenNotes s with
  | case1 => exact ⟨[], [], rfl, List.prefix_refl []⟩
  | case2 c rest after hnote ih => exact ⟨[], _, rfl, List.nil_prefix⟩
  | case3 c rest hnote ih =>
      obtain ⟨p, ps, hps, hp⟩ := ih
      rw [hps]
      exact ⟨c :: p, ps, rfl, List.cons_prefix_cons.mpr ⟨rfl, hp⟩⟩

theorem betweenNotes_allBlank_append {l : List Char} (hl : AllBlank l) (s : List Char) :
    betweenNotes (l ++ s) = (betweenNotes s).modifyHead (l ++ ·) := by
  induction l with
  | nil =>
      obtain ⟨p, ps, hps, -⟩ := exists_betweenNotes s
      rw [List.nil_append, hps]
      rfl
  | cons c l ih =>
      obtain ⟨hc, hl⟩ := List.forall_mem_cons.mp hl
      obtain ⟨p, ps, hps, -⟩ := exists_betweenNotes s
      rw [List.cons_append, betweenNotes_of_none (afterNote?_blank hc _), ih hl, hps]
      rfl

/-- No note starts where none starts when there is more text. -/
theorem afterNote?_eq_none_of_more (h : afterNote? t = none) (hst : s <+: t) : afterNote? s = none := by
  rw [Option.eq_none_iff_forall_ne_some]
  intro after hafter
  obtain ⟨c, rest, rfl, hc, -⟩ := afterNote?_eq_some_iff.mp hafter
  obtain ⟨more, rfl⟩ := hst
  have hnote : afterNote? (noteOpening ++ c :: rest ++ more) = some ((rest ++ more).dropWhile (· != '\n')) :=
    afterNote?_eq_some_iff.mpr ⟨c, rest ++ more, by simp, hc, rfl⟩
  rw [hnote] at h
  cases h

theorem not_hasNote_of_mem (h : p ∈ betweenNotes s) : ¬HasNote p := by
  fun_induction betweenNotes s generalizing p with
  | case1 =>
      rw [List.mem_singleton.mp h]
      exact not_hasNote_nil
  | case2 c rest after hnote ih =>
      rcases List.mem_cons.mp h with rfl | h
      · exact not_hasNote_nil
      · exact ih h
  | case3 c rest hnote ih =>
      obtain ⟨q, ps, hps, hq⟩ := exists_betweenNotes rest
      rw [hps] at h ih
      rcases List.mem_cons.mp h with rfl | h
      · rw [hasNote_cons_of_none (afterNote?_eq_none_of_more hnote (List.cons_prefix_cons.mpr ⟨rfl, hq⟩))]
        exact ih List.mem_cons_self
      · exact ih (List.mem_cons_of_mem q h)

/-- Behind a note there is the end of its line, or nothing. -/
theorem head_of_mem_tail (h : p ∈ (betweenNotes s).tail) : ∀ c ∈ p.head?, c = '\n' := by
  fun_induction betweenNotes s generalizing p with
  | case1 => cases h
  | case2 c rest after hnote ih =>
      obtain ⟨q, ps, hps, hq⟩ := exists_betweenNotes after
      rw [List.tail_cons, hps] at h
      rw [hps] at ih
      rcases List.mem_cons.mp h with rfl | h
      · obtain ⟨d, more, -, -, hafter⟩ := afterNote?_eq_some_iff.mp hnote
        intro x hx
        obtain ⟨r, hr⟩ := hq
        have hhead := List.head?_dropWhile_not (· != '\n') more
        rw [hafter, ← hr, List.head?_append, Option.mem_def.mp hx] at hhead
        simpa using hhead
      · exact ih h
  | case3 c rest hnote ih =>
      obtain ⟨q, ps, hps, -⟩ := exists_betweenNotes rest
      rw [hps] at h ih
      exact ih h

/-! ### Cleaning between notes -/

theorem collapse_cons_blank (hc : isBlank c = true) (hs : ∀ d ∈ s.head?, isBlank d = false) :
    collapse (c :: s) = (if c = '\n' then ' ' else c) :: collapse s := by
  generalize hwhole : c :: s = whole
  fun_cases collapse whole with
  | case1 => cases hwhole
  | case2 e he d more hd =>
      cases hwhole
      rw [hs d rfl] at hd
      cases hd
  | case3 e he d more hd =>
      cases hwhole
      rfl
  | case4 e he =>
      cases hwhole
      simp [collapse]
  | case5 e rest he after hnote =>
      cases hwhole
      exact absurd hc he
  | case6 e rest he hnote =>
      cases hwhole
      exact absurd hc he

theorem collapse_cons_blanks (hc : isBlank c = true) (hd : isBlank d = true) (s : List Char) :
    collapse (c :: d :: s) = ' ' :: collapse (s.dropWhile isBlank) := by
  generalize hwhole : c :: d :: s = whole
  fun_cases collapse whole with
  | case1 => cases hwhole
  | case2 e he x more hx =>
      cases hwhole
      rfl
  | case3 e he x more hx =>
      cases hwhole
      exact absurd hd hx
  | case4 e he => cases hwhole
  | case5 e rest he after hnote =>
      cases hwhole
      exact absurd hc he
  | case6 e rest he hnote =>
      cases hwhole
      exact absurd hc he

/-- The texts between the notes are cleaned by themselves, and a space is put for every note. -/
theorem collapse_betweenNotes (s : List Char) : collapse s = [' '].intercalate ((betweenNotes s).map collapse) := by
  fun_induction collapse s with
  | case1 => simp [betweenNotes, collapse]
  | case2 c hc d more hd ih =>
      obtain ⟨p, ps, hps, hp⟩ := exists_betweenNotes (more.dropWhile isBlank)
      have hblanks : AllBlank (c :: d :: more.takeWhile isBlank) :=
        List.forall_mem_cons.mpr ⟨hc, List.forall_mem_cons.mpr ⟨hd, fun _ hx => List.mem_takeWhile_imp hx⟩⟩
      have hpieces : betweenNotes (c :: d :: more) = (c :: d :: more.takeWhile isBlank ++ p) :: ps := by
        have h := betweenNotes_allBlank_append hblanks (more.dropWhile isBlank)
        rwa [List.cons_append, List.cons_append, List.takeWhile_append_dropWhile, hps] at h
      -- What is left of the white space in front of the first text is one space.
      have hfirst : collapse (c :: d :: more.takeWhile isBlank ++ p) = [' '] ++ collapse p := by
        have hhead : p.dropWhile isBlank = p := trimStart_of_head fun x hx => by
          obtain ⟨r, hr⟩ := hp
          have hnot := List.head?_dropWhile_not isBlank more
          rw [← hr, List.head?_append, Option.mem_def.mp hx] at hnot
          exact hnot
        rw [List.cons_append, List.cons_append, collapse_cons_blanks hc hd,
          List.dropWhile_append_of_pos fun _ hx => List.mem_takeWhile_imp hx, hhead]
        rfl
      rw [ih, hpieces, hps, List.map_cons, List.map_cons, hfirst, intercalate_append_head]
      rfl
  | case3 c hc d more hd ih =>
      obtain ⟨p, ps, hps, hp⟩ := exists_betweenNotes (d :: more)
      have hhead : ∀ x ∈ p.head?, isBlank x = false := by
        obtain ⟨r, hr⟩ := hp
        intro x hx
        obtain ⟨q, rfl⟩ := List.head?_eq_some_iff.mp hx
        rw [(List.cons.inj hr).1]
        simpa using hd
      have hfirst : collapse (c :: p) = [if c = '\n' then ' ' else c] ++ collapse p := collapse_cons_blank hc hhead
      rw [betweenNotes_of_none (afterNote?_blank hc _), ih, hps, List.modifyHead_cons, List.map_cons, List.map_cons,
        hfirst, intercalate_append_head]
      rfl
  | case4 c hc =>
      rw [betweenNotes_of_none (afterNote?_blank hc _), betweenNotes, List.modifyHead_cons, List.map_cons,
        collapse_cons_blank hc (fun _ hx => by cases hx)]
      simp [collapse]
  | case5 c rest hc after hnote ih =>
      obtain ⟨p, ps, hps, -⟩ := exists_betweenNotes after
      rw [betweenNotes_of_note hnote, ih, hps, List.map_cons, List.map_cons, List.map_cons, List.intercalate_cons_cons]
      simp [collapse]
  | case6 c rest hc hnote ih =>
      obtain ⟨p, ps, hps, hp⟩ := exists_betweenNotes rest
      have hfirst : collapse (c :: p) = [c] ++ collapse p :=
        collapse_cons_of_none hc (afterNote?_eq_none_of_more hnote (List.cons_prefix_cons.mpr ⟨rfl, hp⟩))
      rw [betweenNotes_of_none hnote, ih, hps, List.modifyHead_cons, List.map_cons, List.map_cons, hfirst,
        intercalate_append_head]
      rfl

theorem allBlank_collapse_iff (h : ¬HasNote p) : AllBlank (collapse p) ↔ AllBlank p := by
  rw [← words_eq_nil_iff, words_collapse h, words_eq_nil_iff]

/-- A text that starts with white space does so after it has been cleaned. -/
theorem exists_collapse_of_blank (hc : isBlank c = true) (s : List Char) :
    ∃ b t, collapse (c :: s) = b :: t ∧ isBlank b = true := by
  rcases collapse_cons_cases c s with h | ⟨-, h⟩
  · exact h
  · exact ⟨c, _, h, hc⟩

/-! ### Texts that are kept -/

theorem mem_kept (h : p ∈ kept s) : ¬HasNote p ∧ ¬AllBlank p := by
  obtain ⟨hmem, hblank⟩ := List.mem_filter.mp h
  refine ⟨not_hasNote_of_mem hmem, fun hall => ?_⟩
  rw [isAllBlank_iff.mpr hall] at hblank
  cases hblank

/-- A text between notes that is not kept leaves white space only. -/
theorem allBlank_collapse_of_mem (hmem : p ∈ betweenNotes s) (hp : ¬(!isAllBlank p) = true) : AllBlank (collapse p) :=
  (allBlank_collapse_iff (not_hasNote_of_mem hmem)).mpr (isAllBlank_iff.mp (by simpa using hp))

theorem trim_collapse_of_kept_nil (h : kept s = []) : trim (collapse s) = [] := by
  have hblank : AllBlank (collapse s) := by
    rw [collapse_betweenNotes, allBlank_intercalate_iff, List.forall_mem_map]
    exact fun l hl => allBlank_collapse_of_mem hl (List.filter_eq_nil_iff.mp h l hl)
  have htrim := trim_pad hblank (List.forall_mem_nil _) []
  rwa [List.append_nil, List.append_nil] at htrim

theorem trim_collapse_of_kept_singleton (h : kept s = [p]) : trim (collapse s) = trim (collapse p) := by
  obtain ⟨above, below, hpieces, habove, -, hbelow⟩ := List.filter_eq_cons_iff.mp h
  obtain ⟨l, hleft, hl⟩ :=
    exists_intercalate_append (above.map collapse) (List.cons_ne_nil (collapse p) (below.map collapse))
  obtain ⟨r, hright, hr⟩ := exists_intercalate_cons (collapse p) (below.map collapse)
  have hblank : ∀ k ∈ above ++ p :: below, ¬(!isAllBlank k) = true → AllBlank (collapse k) :=
    fun k hk => allBlank_collapse_of_mem (hpieces ▸ hk)
  rw [collapse_betweenNotes, hpieces, List.map_append, List.map_cons, hleft, hright, trim_pad (hl ?_) (hr ?_)]
  · rw [List.forall_mem_map]
    exact fun k hk => hblank k (List.mem_append_left _ hk) (habove k hk)
  · rw [List.forall_mem_map]
    intro k hk
    exact hblank k (List.mem_append_right _ (List.mem_cons_of_mem p hk)) (List.filter_eq_nil_iff.mp hbelow k hk)

/-- A text that is kept behind a note starts with the end of the line that the note stood in, and so with a space. -/
theorem exists_collapse_of_kept {above below : List (List Char)} (hpieces : betweenNotes s = above ++ p :: below)
    (habove : above ≠ []) (hp : ¬AllBlank p) : ∃ b t, collapse p = b :: t ∧ isBlank b = true ∧ ¬AllBlank t := by
  have hnote : ¬HasNote p := not_hasNote_of_mem (by rw [hpieces]; simp)
  have htail : p ∈ (betweenNotes s).tail := by
    rw [hpieces, List.tail_append_of_ne_nil habove]
    simp
  obtain ⟨c, q, rfl⟩ := List.exists_cons_of_ne_nil fun hnil : p = [] => hp (hnil ▸ List.forall_mem_nil _)
  have hc : isBlank c = true := by
    rw [head_of_mem_tail htail c rfl]
    decide
  obtain ⟨b, t, hcollapse, hb⟩ := exists_collapse_of_blank hc q
  refine ⟨b, t, hcollapse, hb, fun ht => hp ((allBlank_collapse_iff hnote).mp ?_)⟩
  rw [hcollapse]
  exact List.forall_mem_cons.mpr ⟨hb, ht⟩

end ClassScribe.Naming
