import Mathlib.Data.List.DropRight
import ClassScribe.Proofs.Text.Splitting
import ClassScribe.Text.Margin

/-! # Lines that are moved

The rows of a text are its lines from the first to the last one that is not blank. Moving a text to the margin gives
its rows, without the margin of the first one (`dedent_eq`); padding the lines of a text pads its rows
(`rows_indent`). What these two do to a line does not depend on the other lines, but for the margin of the first row,
and so the laws on texts come from laws on single lines: `margin_dropMargin`, `dropMargin_padLine`. -/

namespace ClassScribe.Text

variable {s l pad : List Char} {ls : List (List Char)} {c : Char} {n : Nat}

/-! ### Single lines -/

theorem trimStart_trimStart (l : List Char) : trimStart (trimStart l) = trimStart l :=
  List.dropWhile_idempotent isBlank l

theorem isAllBlank_iff_trimStart : isAllBlank l = true ↔ trimStart l = [] := by
  rw [isAllBlank_iff, trimStart_eq_nil_iff]

theorem isAllBlank_congr {r : List Char} (h : trimStart r = trimStart l) : isAllBlank r = isAllBlank l := by
  rw [Bool.eq_iff_iff, isAllBlank_iff_trimStart, isAllBlank_iff_trimStart, h]

theorem margin_append (h : AllBlank pad) (l : List Char) : margin (pad ++ l) = pad.length + margin l := by
  unfold margin
  rw [List.takeWhile_append_of_pos h, List.length_append]

theorem dropMargin_eq (n : Nat) (l : List Char) : dropMargin n l = (l.takeWhile isBlank).drop n ++ trimStart l := by
  induction l generalizing n with
  | nil => cases n <;> rfl
  | cons c l ih =>
      unfold trimStart
      cases n with
      | zero => exact List.takeWhile_append_dropWhile.symm
      | succ n =>
          rw [dropMargin]
          by_cases hc : isBlank c = true
          · rw [if_pos hc, List.takeWhile_cons_of_pos hc, List.dropWhile_cons_of_pos hc]
            exact ih n
          · rw [if_neg hc, List.takeWhile_cons_of_neg hc, List.dropWhile_cons_of_neg hc]
            rfl

theorem dropMargin_zero (l : List Char) : dropMargin 0 l = l := by
  rw [dropMargin_eq, List.drop_zero]
  exact List.takeWhile_append_dropWhile

theorem dropMargin_nil (n : Nat) : dropMargin n [] = [] := by cases n <;> rfl

theorem allBlank_drop_margin (n : Nat) (l : List Char) : AllBlank ((l.takeWhile isBlank).drop n) :=
  fun _ hc => List.mem_takeWhile_imp (List.mem_of_mem_drop hc)

theorem trimStart_dropMargin (n : Nat) (l : List Char) : trimStart (dropMargin n l) = trimStart l := by
  rw [dropMargin_eq, trimStart_append (allBlank_drop_margin n l), trimStart_trimStart]

theorem isAllBlank_dropMargin (n : Nat) (l : List Char) : isAllBlank (dropMargin n l) = isAllBlank l :=
  isAllBlank_congr (trimStart_dropMargin n l)

theorem margin_trimStart (l : List Char) : margin (trimStart l) = 0 := by
  cases h : trimStart l with
  | nil => rfl
  | cons c t =>
      have hhead := List.head?_dropWhile_not isBlank l
      rw [show l.dropWhile isBlank = c :: t from h] at hhead
      unfold margin
      rw [List.takeWhile_cons_of_neg (by simpa using hhead)]
      rfl

theorem margin_dropMargin (n : Nat) (l : List Char) : margin (dropMargin n l) = margin l - n := by
  rw [dropMargin_eq, margin_append (allBlank_drop_margin n l), margin_trimStart, List.length_drop]
  rfl

theorem mem_of_mem_dropMargin (h : c ∈ dropMargin n l) : c ∈ l := by
  rw [dropMargin_eq] at h
  rcases List.mem_append.mp h with h | h
  · exact (List.takeWhile_prefix _).subset (List.mem_of_mem_drop h)
  · exact (List.dropWhile_suffix _).subset h

theorem padLine_of_blank (h : isAllBlank l = true) (pad : List Char) : padLine pad l = l := if_pos h

theorem padLine_of_not_blank (h : isAllBlank l = false) (pad : List Char) : padLine pad l = pad ++ l :=
  if_neg (by simp [h])

theorem trimStart_padLine (hpad : AllBlank pad) (l : List Char) : trimStart (padLine pad l) = trimStart l := by
  unfold padLine
  split
  · rfl
  · exact trimStart_append hpad l

theorem isAllBlank_padLine (hpad : AllBlank pad) (l : List Char) : isAllBlank (padLine pad l) = isAllBlank l :=
  isAllBlank_congr (trimStart_padLine hpad l)

theorem mem_of_mem_padLine (h : c ∈ padLine pad l) : c ∈ pad ∨ c ∈ l := by
  unfold padLine at h
  split at h
  · exact .inr h
  · exact List.mem_append.mp h

/-- A padding goes with the margin that it is part of. -/
theorem dropMargin_padLine (hpad : AllBlank pad) (hblank : isAllBlank l = true → l = []) (n : Nat) :
    dropMargin (pad.length + n) (padLine pad l) = dropMargin n l := by
  cases h : isAllBlank l with
  | true =>
      rw [padLine_of_blank h, hblank h, dropMargin_nil, dropMargin_nil]
  | false =>
      rw [padLine_of_not_blank h, dropMargin_eq, dropMargin_eq, List.takeWhile_append_of_pos hpad,
        List.drop_append, List.drop_eq_nil_of_le (by omega), List.nil_append, Nat.add_sub_cancel_left,
        trimStart_append hpad]

/-! ### Rows -/

theorem trimBlankLines_eq (ls : List (List Char)) :
    trimBlankLines ls = (ls.dropWhile isAllBlank).rdropWhile isAllBlank := rfl

theorem trimBlankLines_map {f : List Char → List Char} (h : ∀ l, isAllBlank (f l) = isAllBlank l)
    (ls : List (List Char)) : trimBlankLines (ls.map f) = (trimBlankLines ls).map f := by
  have hf : isAllBlank ∘ f = isAllBlank := funext h
  unfold trimBlankLines
  rw [List.dropWhile_map, hf, ← List.map_reverse, List.dropWhile_map, hf, List.map_reverse]

theorem isAllBlank_head_trimBlankLines (ls : List (List Char)) :
    ∀ l ∈ (trimBlankLines ls).head?, isAllBlank l = false := by
  intro l hl
  obtain ⟨t, ht⟩ := List.head?_eq_some_iff.mp hl
  obtain ⟨more, hmore⟩ := List.rdropWhile_prefix isAllBlank (ls.dropWhile isAllBlank)
  have hhead := List.head?_dropWhile_not isAllBlank ls
  rw [← hmore, ← trimBlankLines_eq, ht] at hhead
  exact hhead

theorem isAllBlank_getLast_trimBlankLines (ls : List (List Char)) :
    ∀ l ∈ (trimBlankLines ls).getLast?, isAllBlank l = false := by
  intro l hl
  have hhead := List.head?_dropWhile_not isAllBlank (ls.dropWhile isAllBlank).reverse
  rw [trimBlankLines, List.getLast?_reverse] at hl
  rw [Option.mem_def.mp hl] at hhead
  exact hhead

theorem trimBlankLines_trimBlankLines (ls : List (List Char)) :
    trimBlankLines (trimBlankLines ls) = trimBlankLines ls := by
  have hfirst : (trimBlankLines ls).dropWhile isAllBlank = trimBlankLines ls := by
    cases h : trimBlankLines ls with
    | nil => rfl
    | cons l rest =>
        have hl := isAllBlank_head_trimBlankLines ls l (by rw [h]; rfl)
        exact List.dropWhile_cons_of_neg (by simp [hl])
  rw [trimBlankLines_eq, hfirst, trimBlankLines_eq, List.rdropWhile_idempotent]

theorem mem_of_mem_trimBlankLines (h : l ∈ trimBlankLines ls) : l ∈ ls :=
  (List.dropWhile_suffix _).subset ((List.rdropWhile_prefix _ _).subset h)

theorem trimBlankLines_concat_nil (ls : List (List Char)) : trimBlankLines (ls ++ [[]]) = trimBlankLines ls := by
  have hnil : isAllBlank [] = true := rfl
  rw [trimBlankLines_eq, trimBlankLines_eq, List.dropWhile_append]
  split
  · next h =>
      rw [List.isEmpty_iff.mp h, List.dropWhile_cons_of_pos hnil]
      rfl
  · rw [List.rdropWhile_concat_pos _ _ _ hnil]

/-- The lines of a text from the first to the last one that is not blank, cut at line feeds only. -/
def rows (s : List Char) : List (List Char) := trimBlankLines (s.splitOn '\n')

theorem mem_of_mem_splitOn (h : l ∈ s.splitOn '\n') (hc : c ∈ l) : c ∈ s ∧ c ≠ '\n' := by
  induction s generalizing l with
  | nil =>
      rw [List.splitOn_nil, List.mem_singleton] at h
      rw [h] at hc
      cases hc
  | cons d s ih =>
      rw [List.splitOn_cons_eq_if_modifyHead] at h
      by_cases hd : (d == '\n') = true
      · rw [if_pos hd] at h
        rcases List.mem_cons.mp h with rfl | h
        · cases hc
        · exact (ih h hc).imp_left (List.mem_cons_of_mem d)
      · rw [if_neg hd] at h
        obtain ⟨first, rest, hsplit⟩ := List.exists_cons_of_ne_nil (List.splitOn_ne_nil '\n' s)
        rw [hsplit, List.modifyHead_cons] at h
        rcases List.mem_cons.mp h with rfl | h
        · rcases List.mem_cons.mp hc with rfl | hc
          · exact ⟨List.mem_cons_self, by simpa using hd⟩
          · exact (ih (by rw [hsplit]; exact List.mem_cons_self) hc).imp_left (List.mem_cons_of_mem d)
        · exact (ih (by rw [hsplit]; exact List.mem_cons_of_mem _ h) hc).imp_left (List.mem_cons_of_mem d)

theorem mem_of_mem_rows (h : l ∈ rows s) (hc : c ∈ l) : c ∈ s ∧ c ≠ '\n' :=
  mem_of_mem_splitOn (mem_of_mem_trimBlankLines h) hc

theorem mem_joinLines (h : c ∈ joinLines ls) : c = '\n' ∨ ∃ l ∈ ls, c ∈ l := by
  induction ls with
  | nil => cases h
  | cons l ls ih =>
      cases ls with
      | nil =>
          rw [joinLines, List.intercalate_singleton] at h
          exact .inr ⟨l, List.mem_cons_self, h⟩
      | cons m ls =>
          rw [joinLines, List.intercalate_cons_cons, List.append_assoc, List.mem_append] at h
          rcases h with h | h
          · exact .inr ⟨l, List.mem_cons_self, h⟩
          · rcases List.mem_cons.mp h with rfl | h
            · exact .inl rfl
            · exact (ih h).imp_right fun ⟨k, hk, hc⟩ => ⟨k, List.mem_cons_of_mem _ hk, hc⟩

theorem rows_joinLines (h : ∀ l ∈ ls, '\n' ∉ l) : rows (joinLines ls) = trimBlankLines ls := by
  unfold rows
  by_cases hne : ls = []
  · rw [hne]
    rfl
  · rw [joinLines, List.splitOn_intercalate '\n' h hne]

/-! ### Lines -/

/-- A text without carriage returns is cut into lines at line feeds; nothing behind the last of them is no line. -/
theorem exists_lines (hs : '\r' ∉ s) :
    s.splitOn '\n' = lines s ∧ (lines s).getLast? ≠ some [] ∨ s.splitOn '\n' = lines s ++ [[]] := by
  obtain ⟨front, last, hparts⟩ := (List.eq_nil_or_concat _).resolve_left (List.splitOn_ne_nil '\n' s)
  rw [List.concat_eq_append] at hparts
  have hends : front.map dropReturn = front := by
    refine (List.map_congr_left fun l hl => if_neg fun hlast => ?_).trans (List.map_id front)
    have hmem : l ∈ s.splitOn '\n' := by rw [hparts]; exact List.mem_append_left _ hl
    exact hs (mem_of_mem_splitOn hmem (List.mem_of_getLast? hlast)).1
  unfold lines
  rw [hparts]
  simp only [List.dropLast_concat, hends, List.getLast?_concat]
  cases last with
  | nil => exact .inr rfl
  | cons c last =>
      refine .inl ⟨rfl, ?_⟩
      rw [List.getLast?_concat]
      simp

/-- The rows of a text without carriage returns are its lines from the first to the last one that is not blank. -/
theorem trimBlankLines_lines (hs : '\r' ∉ s) : trimBlankLines (lines s) = rows s := by
  unfold rows
  rcases exists_lines hs with ⟨h, -⟩ | h
  · rw [h]
  · rw [h, trimBlankLines_concat_nil]

/-- Lines that are joined are found again, if the last one is not empty. -/
theorem lines_joinLines (h : ∀ l ∈ ls, '\n' ∉ l ∧ '\r' ∉ l) (hlast : ls.getLast? ≠ some []) :
    lines (joinLines ls) = ls := by
  by_cases hne : ls = []
  · rw [hne]
    rfl
  have hreturn : '\r' ∉ joinLines ls := by
    intro hc
    rcases mem_joinLines hc with hc | ⟨l, hl, hc⟩
    · exact absurd hc (by decide)
    · exact (h l hl).2 hc
  have hsplit : (joinLines ls).splitOn '\n' = ls := List.splitOn_intercalate '\n' (fun l hl => (h l hl).1) hne
  rcases exists_lines hreturn with ⟨hlines, -⟩ | hlines
  · rw [← hlines, hsplit]
  · rw [hsplit] at hlines
    rw [hlines, List.getLast?_concat] at hlast
    exact absurd rfl hlast

/-! ### Texts -/

/-- The margin that a text is moved by: that of its first row. -/
def baseMargin (s : List Char) : Nat := margin ((rows s).headD [])

theorem dedent_eq (hs : '\r' ∉ s) : dedent s = joinLines ((rows s).map (dropMargin (baseMargin s))) := by
  unfold dedent baseMargin
  rw [trimBlankLines_lines hs]
  cases rows s <;> rfl

theorem rows_dedent (hs : '\r' ∉ s) : rows (dedent s) = (rows s).map (dropMargin (baseMargin s)) := by
  have hlines : ∀ l ∈ (rows s).map (dropMargin (baseMargin s)), '\n' ∉ l := by
    intro l hl hc
    obtain ⟨k, hk, rfl⟩ := List.mem_map.mp hl
    exact (mem_of_mem_rows hk (mem_of_mem_dropMargin hc)).2 rfl
  rw [dedent_eq hs, rows_joinLines hlines, trimBlankLines_map (isAllBlank_dropMargin _)]
  exact congrArg _ (trimBlankLines_trimBlankLines _)

theorem return_not_mem_dedent (hs : '\r' ∉ s) : '\r' ∉ dedent s := by
  rw [dedent_eq hs]
  intro hc
  rcases mem_joinLines hc with hc | ⟨l, hl, hc⟩
  · exact absurd hc (by decide)
  · obtain ⟨k, hk, rfl⟩ := List.mem_map.mp hl
    exact hs (mem_of_mem_rows hk (mem_of_mem_dropMargin hc)).1

theorem baseMargin_dedent (hs : '\r' ∉ s) : baseMargin (dedent s) = 0 := by
  unfold baseMargin
  rw [rows_dedent hs]
  cases h : rows s with
  | nil => rfl
  | cons l ls =>
      have hbase : baseMargin s = margin l := by rw [baseMargin, h]; rfl
      rw [List.map_cons, List.headD_cons, margin_dropMargin, hbase, Nat.sub_self]

theorem dedent_dedent (hs : '\r' ∉ s) : dedent (dedent s) = dedent s := by
  have hzero : dropMargin 0 = id := funext dropMargin_zero
  rw [dedent_eq (return_not_mem_dedent hs), baseMargin_dedent hs, hzero, List.map_id, rows_dedent hs, ← dedent_eq hs]

/-- Padding that can stand in front of lines. -/
structure IsPadding (pad : List Char) : Prop where
  allBlank : AllBlank pad
  newline : '\n' ∉ pad
  carriage : '\r' ∉ pad

theorem indent_eq (pad s : List Char) : indent pad true s = joinLines ((s.splitOn '\n').map (padLine pad)) := by
  unfold indent
  cases s.splitOn '\n' <;> rfl

theorem rows_indent (hpad : IsPadding pad) (s : List Char) : rows (indent pad true s) = (rows s).map (padLine pad) := by
  have hlines : ∀ l ∈ (s.splitOn '\n').map (padLine pad), '\n' ∉ l := by
    intro l hl hc
    obtain ⟨k, hk, rfl⟩ := List.mem_map.mp hl
    rcases mem_of_mem_padLine hc with hc | hc
    · exact hpad.newline hc
    · exact (mem_of_mem_splitOn hk hc).2 rfl
  rw [indent_eq, rows_joinLines hlines, trimBlankLines_map (isAllBlank_padLine hpad.allBlank)]
  rfl

theorem return_not_mem_indent (hpad : IsPadding pad) (hs : '\r' ∉ s) : '\r' ∉ indent pad true s := by
  rw [indent_eq]
  intro hc
  rcases mem_joinLines hc with hc | ⟨l, hl, hc⟩
  · exact absurd hc (by decide)
  · obtain ⟨k, hk, rfl⟩ := List.mem_map.mp hl
    rcases mem_of_mem_padLine hc with hc | hc
    · exact hpad.carriage hc
    · exact hs (mem_of_mem_splitOn hk hc).1

theorem baseMargin_indent (hpad : IsPadding pad) (hne : rows s ≠ []) :
    baseMargin (indent pad true s) = pad.length + baseMargin s := by
  obtain ⟨l, ls, h⟩ := List.exists_cons_of_ne_nil hne
  have hl : isAllBlank l = false := by
    refine isAllBlank_head_trimBlankLines (s.splitOn '\n') l ?_
    rw [show trimBlankLines (s.splitOn '\n') = l :: ls from h]
    rfl
  unfold baseMargin
  rw [rows_indent hpad, h, List.map_cons, List.headD_cons, List.headD_cons, padLine_of_not_blank hl,
    margin_append hpad.allBlank]

/-- Padding is lost when the text is moved to the margin, if its blank lines are empty. -/
theorem dedent_indent (hpad : IsPadding pad) (hs : '\r' ∉ s) (hblank : ∀ l ∈ rows s, isAllBlank l = true → l = []) :
    dedent (indent pad true s) = dedent s := by
  rw [dedent_eq (return_not_mem_indent hpad hs), rows_indent hpad, dedent_eq hs]
  by_cases hne : rows s = []
  · rw [hne]
    rfl
  · rw [baseMargin_indent hpad hne, List.map_map]
    exact congrArg _ (List.map_congr_left fun l hl => dropMargin_padLine hpad.allBlank (hblank l hl) _)

/-- The blank lines of a text at the margin are empty if those of the text are. -/
theorem eq_nil_of_mem_rows_dedent (hs : '\r' ∉ s) (hblank : ∀ l ∈ rows s, isAllBlank l = true → l = [])
    (hl : l ∈ rows (dedent s)) (h : isAllBlank l = true) : l = [] := by
  rw [rows_dedent hs] at hl
  obtain ⟨k, hk, rfl⟩ := List.mem_map.mp hl
  rw [isAllBlank_dropMargin] at h
  rw [hblank k hk h, dropMargin_nil]

/-- The lines of a text that is moved to the margin and then padded are its rows, moved and padded. -/
theorem lines_indent_dedent (hpad : IsPadding pad) (hs : '\r' ∉ s) :
    lines (indent pad true (dedent s)) = (rows s).map fun l => padLine pad (dropMargin (baseMargin s) l) := by
  by_cases hne : rows s = []
  · rw [dedent_eq hs, hne, indent_eq]
    rfl
  have hsplit : (dedent s).splitOn '\n' = (rows s).map (dropMargin (baseMargin s)) := by
    rw [dedent_eq hs]
    refine List.splitOn_intercalate '\n' (fun l hl hc => ?_) (by simpa using hne)
    obtain ⟨k, hk, rfl⟩ := List.mem_map.mp hl
    exact (mem_of_mem_rows hk (mem_of_mem_dropMargin hc)).2 rfl
  rw [indent_eq, hsplit, List.map_map]
  refine lines_joinLines (fun l hl => ?_) fun hlast => ?_
  · obtain ⟨k, hk, rfl⟩ := List.mem_map.mp hl
    constructor
    all_goals
      intro hc
      rcases mem_of_mem_padLine hc with hc | hc
    · exact hpad.newline hc
    · exact (mem_of_mem_rows hk (mem_of_mem_dropMargin hc)).2 rfl
    · exact hpad.carriage hc
    · exact hs (mem_of_mem_rows hk (mem_of_mem_dropMargin hc)).1
  · rw [List.getLast?_map, Option.map_eq_some_iff] at hlast
    obtain ⟨l, hl, hnil⟩ := hlast
    have hblank := isAllBlank_getLast_trimBlankLines _ l hl
    rw [← isAllBlank_dropMargin (baseMargin s), ← isAllBlank_padLine hpad.allBlank,
      show padLine pad (dropMargin (baseMargin s) l) = [] from hnil] at hblank
    cases hblank

end ClassScribe.Text
