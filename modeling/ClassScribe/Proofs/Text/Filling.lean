import Mathlib.Data.List.Chain
import ClassScribe.Proofs.Text.Words
import ClassScribe.Text.Fill

/-! # Filled lines

A word that is longer than a line is filled as the pieces that it is cut into (`fillFrom_pieces`), so that all that is
put on lines are words that fit: the lines have these words, in order (`flatMap_words_fill_eq`). The lines are greedy:
they fit, and none of them has room for the first word of the next one (`greedy_fill`). The other way round, greedy
lines are the ones that their words fill (`fill_intercalate_iff`), so that filling lines again changes nothing. -/

namespace ClassScribe.Text

variable {s t line w : List Char} {width : Nat} {ls ws : List (List Char)}

/-! ### One word after the other -/

/-- Whether a word goes on the open line, with a space in front of it. -/
def HasRoom (width : Nat) (line w : List Char) : Prop := line ≠ [] ∧ line.length + 1 + w.length ≤ width

theorem not_hasRoom_nil : ¬HasRoom width [] w := fun h => h.1 rfl

theorem lt_of_not_hasRoom (hne : line ≠ []) (h : ¬HasRoom width line w) : width < line.length + 1 + w.length :=
  Nat.lt_of_not_le fun hle => h ⟨hne, hle⟩

theorem closeLine_of_ne_nil (h : line ≠ []) : closeLine line = [line] := if_neg (by simpa using h)

theorem flatMap_words_closeLine (line : List Char) : (closeLine line).flatMap words = words line := by
  unfold closeLine
  cases line with
  | nil => rfl
  | cons c line => exact List.append_nil _

theorem cutWord_of_le (h : w.length ≤ width) : cutWord width w = ([], w) := by
  rw [cutWord, dif_neg (by omega)]

theorem fillFrom_of_hasRoom (h : HasRoom width line w) (ws : List (List Char)) :
    fillFrom width line (w :: ws) = fillFrom width (line ++ ' ' :: w) ws := by
  rw [fillFrom, if_pos (by simpa [HasRoom] using h)]

theorem fillFrom_of_not_hasRoom (h : ¬HasRoom width line w) (ws : List (List Char)) :
    fillFrom width line (w :: ws) =
      closeLine line ++ ((cutWord width w).1 ++ fillFrom width (cutWord width w).2 ws) := by
  rw [fillFrom, if_neg (by simpa [HasRoom] using h)]
  exact List.append_assoc _ _ _

theorem fillFrom_of_full (hne : line ≠ []) (h : ∀ w ∈ ws.head?, ¬HasRoom width line w) :
    fillFrom width line ws = line :: fillFrom width [] ws := by
  cases ws with
  | nil => exact closeLine_of_ne_nil hne
  | cons w ws =>
      rw [fillFrom_of_not_hasRoom (h w rfl), fillFrom_of_not_hasRoom not_hasRoom_nil, closeLine_of_ne_nil hne]
      rfl

theorem fillFrom_nil_cons (h : w.length ≤ width) (ws : List (List Char)) :
    fillFrom width [] (w :: ws) = fillFrom width w ws := by
  rw [fillFrom_of_not_hasRoom not_hasRoom_nil, cutWord_of_le h]
  rfl

/-! ### Pieces of long words -/

/-- The pieces that a word is cut into: the word itself, if it fits on a line. -/
def pieces (width : Nat) (w : List Char) : List (List Char) := (cutWord width w).1 ++ [(cutWord width w).2]

theorem pieces_of_le (h : w.length ≤ width) : pieces width w = [w] := by
  rw [pieces, cutWord_of_le h]
  rfl

theorem flatten_pieces (width : Nat) (w : List Char) : (pieces width w).flatten = w := by
  unfold pieces
  rw [List.flatten_append, List.flatten_singleton]
  fun_induction cutWord width w with
  | case1 w h full last hcut ih =>
      rw [hcut] at ih
      rw [List.flatten_cons, List.append_assoc, ih, List.take_append_drop]
  | case2 w h => rfl

theorem mem_pieces (hwidth : 0 < width) (hw : NoBlank w ∧ w ≠ []) {p : List Char} (hp : p ∈ pieces width w) :
    NoBlank p ∧ p ≠ [] ∧ p.length ≤ width := by
  refine ⟨fun c hc => hw.1 c ?_, ?_⟩
  · rw [← flatten_pieces width w]
    exact List.mem_flatten_of_mem hp hc
  · replace hw := hw.2
    unfold pieces at hp
    rw [List.mem_append, List.mem_singleton] at hp
    fun_induction cutWord width w with
    | case1 w h full last hcut ih =>
        have hrest : w.drop width ≠ [] := by simpa using h.2
        rw [hcut] at ih
        rw [List.mem_cons, or_assoc] at hp
        rcases hp with rfl | hp
        · refine ⟨List.ne_nil_of_length_pos ?_, List.length_take_le width w⟩
          rw [List.length_take]
          omega
        · exact ih hp hrest
    | case2 w h =>
        rcases hp with hp | rfl
        · cases hp
        · exact ⟨hw, by omega⟩

/-- A word without room on the line is filled as its pieces: none but the last one leaves room behind it. -/
theorem fillFrom_pieces_of_not_hasRoom (hwidth : 0 < width) (h : ¬HasRoom width line w) (ws : List (List Char)) :
    fillFrom width line (pieces width w ++ ws) = fillFrom width line (w :: ws) := by
  rw [fillFrom_of_not_hasRoom h]
  unfold pieces
  fun_induction cutWord width w generalizing line with
  | case1 w hlong full last hcut ih =>
      have htake : (w.take width).length = width := by
        rw [List.length_take]
        omega
      have hnone : ¬HasRoom width line (w.take width) := by
        rintro ⟨-, hroom⟩
        omega
      have hfull : ¬HasRoom width (w.take width) (w.drop width) := by
        rintro ⟨-, hroom⟩
        omega
      have ih := ih hfull
      rw [hcut, closeLine_of_ne_nil (List.ne_nil_of_length_pos (by omega))] at ih
      dsimp only at ih ⊢
      rw [List.cons_append, List.cons_append, fillFrom_of_not_hasRoom hnone, cutWord_of_le htake.le]
      dsimp only
      rw [List.nil_append, ih]
      rfl
  | case2 w hfits =>
      rw [List.nil_append, List.singleton_append, fillFrom_of_not_hasRoom h, cutWord_of_le (by omega)]

theorem fillFrom_pieces (hwidth : 0 < width) (line w : List Char) (ws : List (List Char)) :
    fillFrom width line (pieces width w ++ ws) = fillFrom width line (w :: ws) := by
  by_cases h : HasRoom width line w
  · have hroom := h.2
    rw [pieces_of_le (by omega), List.singleton_append]
  · exact fillFrom_pieces_of_not_hasRoom hwidth h ws

theorem fillFrom_flatMap_pieces (hwidth : 0 < width) (line : List Char) (ws : List (List Char)) :
    fillFrom width line (ws.flatMap (pieces width)) = fillFrom width line ws := by
  induction ws generalizing line with
  | nil => rfl
  | cons w ws ih =>
      rw [List.flatMap_cons, fillFrom_pieces hwidth]
      by_cases h : HasRoom width line w
      · rw [fillFrom_of_hasRoom h, fillFrom_of_hasRoom h, ih]
      · rw [fillFrom_of_not_hasRoom h, fillFrom_of_not_hasRoom h, ih]

/-! ### Words on lines -/

/-- The words of a text as they are put on lines: in pieces, if they do not fit. -/
def cutWords (width : Nat) (s : List Char) : List (List Char) := (words s).flatMap (pieces (max width 1))

theorem fill_eq (width : Nat) (s : List Char) : fill width s = fillFrom (max width 1) [] (cutWords width s) :=
  (fillFrom_flatMap_pieces (by omega) [] (words s)).symm

theorem mem_cutWords (h : w ∈ cutWords width s) : NoBlank w ∧ w ≠ [] ∧ w.length ≤ max width 1 := by
  obtain ⟨word, hword, hw⟩ := List.mem_flatMap.mp h
  exact mem_pieces (by omega) (mem_words hword) hw

theorem cutWords_eq_words (h : ∀ w ∈ words s, w.length ≤ max width 1) : cutWords width s = words s :=
  (List.flatMap_congr fun w hw => pieces_of_le (h w hw)).trans (List.flatMap_singleton' _)

theorem flatten_cutWords (width : Nat) (s : List Char) : (cutWords width s).flatten = ink s := by
  rw [cutWords, List.flatMap_def, List.flatten_flatten, List.map_map, ← flatten_words]
  exact congrArg List.flatten ((List.map_congr_left fun w _ => flatten_pieces _ w).trans (List.map_id _))

/-- Words that fit go on the lines as they are. -/
theorem flatMap_words_fillFrom (h : ∀ w ∈ ws, NoBlank w ∧ w ≠ [] ∧ w.length ≤ width) (line : List Char) :
    (fillFrom width line ws).flatMap words = words line ++ ws := by
  induction ws generalizing line with
  | nil => rw [fillFrom, flatMap_words_closeLine, List.append_nil]
  | cons w ws ih =>
      obtain ⟨⟨hw, hne, hfits⟩, hws⟩ := List.forall_mem_cons.mp h
      by_cases hroom : HasRoom width line w
      · rw [fillFrom_of_hasRoom hroom, ih hws, words_append_blank (by decide), words_of_noBlank hw hne,
          List.append_assoc]
        rfl
      · rw [fillFrom_of_not_hasRoom hroom, cutWord_of_le hfits, List.flatMap_append, flatMap_words_closeLine]
        dsimp only
        rw [List.nil_append, ih hws, words_of_noBlank hw hne]
        rfl

/-- The lines of a filled text have the words that it has been cut into. -/
theorem flatMap_words_fill_eq (width : Nat) (s : List Char) : (fill width s).flatMap words = cutWords width s := by
  rw [fill_eq, flatMap_words_fillFrom fun w hw => mem_cutWords hw]
  rfl

/-- The lines of a filled text have its words, if none is longer than a line. -/
theorem flatMap_words_fill (h : ∀ w ∈ words s, w.length ≤ max width 1) :
    (fill width s).flatMap words = words s := by
  rw [flatMap_words_fill_eq, cutWords_eq_words h]

theorem fill_congr (width : Nat) (h : words s = words t) : fill width s = fill width t := by
  rw [fill, fill, h]

/-- The lines of a filled text have the characters that are no white space. -/
theorem flatMap_ink_fill (width : Nat) (s : List Char) : (fill width s).flatMap ink = ink s := by
  rw [← flatten_cutWords width, ← flatMap_words_fill_eq, List.flatMap_def, List.flatMap_def, List.flatten_flatten,
    List.map_map]
  exact congrArg List.flatten (List.map_congr_left fun line _ => (flatten_words line).symm)

/-- Filling a text changes nothing but its white space. -/
theorem ink_fill (width : Nat) (s : List Char) : ink (fill width s).flatten = ink s := by
  rw [ink, List.filter_flatten, ← List.flatMap_def]
  exact flatMap_ink_fill width s

/-! ### Greedy lines -/

/-- A line that fits, of words with a space between two of them. -/
structure IsLine (width : Nat) (line : List Char) : Prop where
  ne_nil : line ≠ []
  spaced : [' '].intercalate (words line) = line
  fits : line.length ≤ width

/-- Lines without room for the first word of the next one. -/
structure Greedy (width : Nat) (ls : List (List Char)) : Prop where
  isLine : ∀ line ∈ ls, IsLine width line
  full : ls.IsChain fun line next => ∃ w ∈ (words next).head?, width < line.length + 1 + w.length

theorem isLine_word (hw : NoBlank w) (hne : w ≠ []) (hfits : w.length ≤ width) : IsLine width w :=
  ⟨hne, by rw [words_of_noBlank hw hne, List.intercalate_singleton], hfits⟩

namespace IsLine

theorem words_ne_nil (h : IsLine width line) : words line ≠ [] := by
  intro hnil
  have hspaced := h.spaced
  rw [hnil] at hspaced
  exact h.ne_nil hspaced.symm

theorem trimmed (h : IsLine width line) : Trimmed line := by
  rw [← h.spaced]
  exact trimmed_intercalate fun _ => mem_words

theorem append_word (h : IsLine width line) (hw : NoBlank w) (hne : w ≠ []) (hroom : HasRoom width line w) :
    IsLine width (line ++ ' ' :: w) := by
  refine ⟨by simp, ?_, ?_⟩
  · rw [words_append_blank (by decide), words_of_noBlank hw hne,
      intercalate_append h.words_ne_nil (List.cons_ne_nil w []), h.spaced, List.intercalate_singleton]
  · have := hroom.2
    rw [List.length_append, List.length_cons]
    omega

end IsLine

namespace Greedy

theorem nil (width : Nat) : Greedy width [] := ⟨nofun, .nil⟩

theorem cons (hline : IsLine width line)
    (hfull : ∀ next ∈ ls.head?, ∃ w ∈ (words next).head?, width < line.length + 1 + w.length)
    (h : Greedy width ls) : Greedy width (line :: ls) :=
  ⟨List.forall_mem_cons.mpr ⟨hline, h.isLine⟩, List.isChain_cons.mpr ⟨hfull, h.full⟩⟩

theorem tail (h : Greedy width (line :: ls)) : Greedy width ls :=
  ⟨(List.forall_mem_cons.mp h.isLine).2, h.full.tail⟩

/-- Greedy lines are the words in them with a space between two of them. -/
theorem intercalate_eq (h : Greedy width ls) : [' '].intercalate ls = [' '].intercalate (ls.flatMap words) := by
  induction ls with
  | nil => rfl
  | cons line ls ih =>
      obtain ⟨hline, hls⟩ := List.forall_mem_cons.mp h.isLine
      rw [List.flatMap_cons]
      cases ls with
      | nil => rw [List.intercalate_singleton, List.flatMap_nil, List.append_nil, hline.spaced]
      | cons next ls =>
          have hrest : (next :: ls).flatMap words ≠ [] := by
            rw [List.flatMap_cons]
            exact List.append_ne_nil_of_left_ne_nil (hls next List.mem_cons_self).words_ne_nil _
          rw [List.intercalate_cons_cons, intercalate_append hline.words_ne_nil hrest, hline.spaced, ih h.tail,
            List.append_assoc]
          rfl

end Greedy

/-- Words that fit go on greedy lines, the first of which starts as the open line does. -/
theorem greedy_fillFrom (hws : ∀ w ∈ ws, NoBlank w ∧ w ≠ [] ∧ w.length ≤ width) (hline : IsLine width line) :
    ∃ first rest, fillFrom width line ws = first :: rest ∧ (words first).head? = (words line).head? ∧
      Greedy width (first :: rest) := by
  induction ws generalizing line with
  | nil => exact ⟨line, [], closeLine_of_ne_nil hline.ne_nil, rfl, .cons hline nofun (.nil width)⟩
  | cons w ws ih =>
      obtain ⟨⟨hw, hne, hfits⟩, hws⟩ := List.forall_mem_cons.mp hws
      have hword : words w = [w] := words_of_noBlank hw hne
      by_cases hroom : HasRoom width line w
      · obtain ⟨first, rest, hfill, hhead, hgreedy⟩ := ih hws (hline.append_word hw hne hroom)
        refine ⟨first, rest, ?_, ?_, hgreedy⟩
        · rw [fillFrom_of_hasRoom hroom, hfill]
        · rw [hhead, words_append_blank (by decide), List.head?_append_of_ne_nil _ hline.words_ne_nil]
      · obtain ⟨first, rest, hfill, hhead, hgreedy⟩ := ih hws (isLine_word hw hne hfits)
        refine ⟨line, first :: rest, ?_, rfl, .cons hline ?_ hgreedy⟩
        · rw [fillFrom_of_full hline.ne_nil, fillFrom_nil_cons hfits, hfill]
          intro x hx
          rwa [← Option.some.inj hx]
        · intro next hnext
          rw [← Option.some.inj hnext, hhead, hword]
          exact ⟨w, rfl, lt_of_not_hasRoom hline.ne_nil hroom⟩

/-- The lines of a filled text are greedy. -/
theorem greedy_fill (width : Nat) (s : List Char) : Greedy (max width 1) (fill width s) := by
  have hall : ∀ w ∈ cutWords width s, NoBlank w ∧ w ≠ [] ∧ w.length ≤ max width 1 := fun w hw => mem_cutWords hw
  rw [fill_eq]
  cases hcut : cutWords width s with
  | nil => exact .nil _
  | cons w ws =>
      rw [hcut] at hall
      obtain ⟨⟨hw, hne, hfits⟩, hws⟩ := List.forall_mem_cons.mp hall
      obtain ⟨first, rest, hfill, -, hgreedy⟩ := greedy_fillFrom hws (isLine_word hw hne hfits)
      rwa [fillFrom_nil_cons hfits, hfill]

/-- The lines of a text whose words fit are its words, with a space or the end of a line between two of them. -/
theorem intercalate_fill (h : ∀ w ∈ words s, w.length ≤ max width 1) :
    [' '].intercalate (fill width s) = [' '].intercalate (words s) := by
  rw [(greedy_fill width s).intercalate_eq, flatMap_words_fill h]

theorem fillFrom_line (hne : w ≠ []) (h : ([' '].intercalate (w :: ls)).length ≤ width) (ws : List (List Char)) :
    fillFrom width w (ls ++ ws) = fillFrom width ([' '].intercalate (w :: ls)) ws := by
  induction ls generalizing w with
  | nil => rw [List.intercalate_singleton, List.nil_append]
  | cons x ls ih =>
      have hjoin : [' '].intercalate (w :: x :: ls) = [' '].intercalate ((w ++ ' ' :: x) :: ls) := by
        have hhead := intercalate_append_head (w ++ [' ']) x ls
        rw [List.append_assoc, List.singleton_append] at hhead
        rw [List.intercalate_cons_cons, hhead]
      rw [hjoin] at h ⊢
      obtain ⟨r, hr, -⟩ := exists_intercalate_cons (w ++ ' ' :: x) ls
      have hroom : HasRoom width w x := by
        refine ⟨hne, ?_⟩
        rw [hr] at h
        simp only [List.length_append, List.length_cons] at h
        omega
      rw [List.cons_append, fillFrom_of_hasRoom hroom, ih (by simp) h]

theorem IsLine.fillFrom_words (h : IsLine width line) (ws : List (List Char)) :
    fillFrom width [] (words line ++ ws) = fillFrom width line ws := by
  obtain ⟨w, rest, hwords⟩ := List.exists_cons_of_ne_nil h.words_ne_nil
  have hne : w ≠ [] := (mem_words (by rw [hwords]; exact List.mem_cons_self)).2
  have hspaced := h.spaced
  have hfits := h.fits
  rw [hwords] at hspaced
  rw [← hspaced] at hfits
  obtain ⟨r, hr, -⟩ := exists_intercalate_cons w rest
  have hfirst : w.length ≤ width := by
    rw [hr, List.length_append] at hfits
    omega
  rw [hwords, List.cons_append, fillFrom_nil_cons hfirst, fillFrom_line hne hfits, hspaced]

theorem Greedy.not_hasRoom (h : Greedy width (line :: ls)) :
    ∀ w ∈ (ls.flatMap words).head?, ¬HasRoom width line w := by
  cases ls with
  | nil => exact nofun
  | cons next ls =>
      obtain ⟨w, hw, hlt⟩ := (List.isChain_cons.mp h.full).1 next rfl
      have hnext : words next ≠ [] := (h.tail.isLine next List.mem_cons_self).words_ne_nil
      rw [List.flatMap_cons, List.head?_append_of_ne_nil _ hnext, Option.mem_def.mp hw]
      rintro x hx ⟨-, hroom⟩
      rw [← Option.some.inj hx] at hroom
      omega

/-- Greedy lines are the ones that their words fill. -/
theorem fillFrom_of_greedy (h : Greedy width ls) : fillFrom width [] (ls.flatMap words) = ls := by
  induction ls with
  | nil => rfl
  | cons line ls ih =>
      have hline : IsLine width line := h.isLine line List.mem_cons_self
      rw [List.flatMap_cons, hline.fillFrom_words, fillFrom_of_full hline.ne_nil h.not_hasRoom, ih h.tail]

/-- Lines stay as they are when they are joined and filled again just if they are greedy. -/
theorem fill_intercalate_iff : fill width ([' '].intercalate ls) = ls ↔ Greedy (max width 1) ls := by
  constructor
  · intro h
    rw [← h]
    exact greedy_fill _ _
  · intro h
    rw [fill, words_intercalate_lines, fillFrom_of_greedy h]

/-- The lines of a filled text are not empty, fit, and have no white space at their ends; they have the characters of
the text that are no white space, and its words, if these fit; none of them has room for the first word of the next
one; and they stay as they are when they are joined and filled again. -/
theorem fill_greedily (width : Nat) (s : List Char) :
    (∀ line ∈ fill width s, line ≠ [] ∧ line.length ≤ max width 1 ∧ Trimmed line) ∧
    (fill width s).flatMap ink = ink s ∧
    ((∀ w ∈ words s, w.length ≤ max width 1) → (fill width s).flatMap words = words s) ∧
    ((fill width s).IsChain fun line next =>
      ∃ w ∈ (words next).head?, max width 1 < line.length + 1 + w.length) ∧
    fill width ([' '].intercalate (fill width s)) = fill width s := by
  have hgreedy := greedy_fill width s
  refine ⟨fun line hline => ?_, flatMap_ink_fill width s, flatMap_words_fill, hgreedy.full,
    fill_intercalate_iff.mpr hgreedy⟩
  have h := hgreedy.isLine line hline
  exact ⟨h.ne_nil, h.fits, h.trimmed⟩

/-- Words with white space of several kinds between them, on lines of ten characters. -/
theorem fill_greedily_ten :
    (∀ w ∈ words " one  two\tthree four\n".toList, w.length ≤ max 10 1) ∧
    fill 10 " one  two\tthree four\n".toList = ["one two".toList, "three four".toList] ∧
    (fill 10 " one  two\tthree four\n".toList).flatMap words =
      ["one".toList, "two".toList, "three".toList, "four".toList] := by
  have hfits : ∀ w ∈ words " one  two\tthree four\n".toList, w.length ≤ max 10 1 := by decide +kernel
  exact ⟨hfits, by decide +kernel, ((fill_greedily 10 _).2.2.1 hfits).trans (by decide +kernel)⟩

/-- The last piece of a long word stays open for the words behind it, also in lines of one character. -/
example : fill 4 "a bcdefghijk l".toList = ["a".toList, "bcde".toList, "fghi".toList, "jk l".toList] ∧
    fill 0 "ab c".toList = [['a'], ['b'], ['c']] := by decide +kernel

end ClassScribe.Text
