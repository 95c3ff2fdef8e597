import Mathlib.Data.List.TakeWhile
import Mathlib.Tactic.Common
import ClassScribe.Text.Blank
import ClassScribe.Text.Letter

/-! # Cutting texts

What is left of a text without the white space at its ends, its first word, and its two sides at a
separator: the parts make up the text again, and a text that is made up of such parts is cut into
them. -/

namespace ClassScribe.Text

variable {s t l r w before after : List Char} {c : Char}

/-- White space, or nothing. -/
def AllBlank (s : List Char) : Prop := ∀ c ∈ s, isBlank c = true

/-- A text without white space in it. -/
def NoBlank (s : List Char) : Prop := ∀ c ∈ s, isBlank c = false

/-- A text that does not carry on a word: it is empty, or starts with white space. -/
def EndsWord (s : List Char) : Prop := ∀ c ∈ s.head?, isBlank c = true

theorem isAllBlank_iff : isAllBlank s = true ↔ AllBlank s := List.all_eq_true

theorem allBlank_append_iff : AllBlank (s ++ t) ↔ AllBlank s ∧ AllBlank t := List.forall_mem_append

theorem allBlank_space : AllBlank [' '] := by
  intro c hc
  rw [List.mem_singleton.mp hc]
  decide

/-! ### Identifiers -/

/-- The digits, the capitals, the small letters and the underscore. -/
theorem toNat_of_isIdentPart (h : isIdentPart c = true) :
    (48 ≤ c.toNat ∧ c.toNat ≤ 57) ∨ (65 ≤ c.toNat ∧ c.toNat ≤ 90) ∨
      (97 ≤ c.toNat ∧ c.toNat ≤ 122) ∨ c.toNat = 95 := by
  delta isIdentPart Char.isAlphanum Char.isAlpha Char.isUpper Char.isLower Char.isDigit at h
  simp only [Bool.or_eq_true, Bool.and_eq_true, decide_eq_true_eq, beq_iff_eq, ge_iff_le] at h
  change (((65 ≤ c.toNat ∧ c.toNat ≤ 90) ∨ (97 ≤ c.toNat ∧ c.toNat ≤ 122)) ∨
    (48 ≤ c.toNat ∧ c.toNat ≤ 57)) ∨ c = '_' at h
  rcases h with h | rfl
  · omega
  · exact .inr (.inr (.inr rfl))

/-- The characters of identifiers are no white space and none of the signs around them. -/
theorem isIdentPart_spec (h : isIdentPart c = true) :
    isBlank c = false ∧ c ≠ '=' ∧ c ≠ '"' ∧ c ≠ '\'' := by
  have hrange := toNat_of_isIdentPart h
  refine ⟨?_, ?_, ?_, ?_⟩
  · rw [← Bool.not_eq_true]
    intro hb
    rw [isBlank, inRanges_iff] at hb
    obtain ⟨⟨a, b⟩, hab, h1, h2⟩ := hb
    simp only [blanks, List.mem_cons, Prod.mk.injEq, List.not_mem_nil, or_false] at hab h1 h2
    omega
  all_goals
    rintro rfl
    revert hrange
    decide

theorem isIdentPart_of_isIdentStart (h : isIdentStart c = true) : isIdentPart c = true := by
  unfold isIdentStart at h
  unfold isIdentPart Char.isAlphanum
  rw [Bool.or_eq_true] at h ⊢
  rcases h with h | h
  · exact .inl (by rw [h]; rfl)
  · exact .inr h

theorem isIdentPart_of_mem (h : isIdentifier w = true) (hc : c ∈ w) : isIdentPart c = true := by
  cases w with
  | nil => cases hc
  | cons d w =>
      unfold isIdentifier at h
      rw [Bool.and_eq_true, List.all_eq_true] at h
      rcases List.mem_cons.mp hc with rfl | hc
      · exact isIdentPart_of_isIdentStart h.1
      · exact h.2 c hc

theorem noBlank_of_isIdentifier (h : isIdentifier w = true) : NoBlank w := fun _ hc =>
  (isIdentPart_spec (isIdentPart_of_mem h hc)).1

theorem ne_nil_of_isIdentifier (h : isIdentifier w = true) : w ≠ [] := by
  rintro rfl
  cases h

/-! ### White space at the ends -/

theorem trimStart_append (h : AllBlank l) (s : List Char) : trimStart (l ++ s) = trimStart s :=
  List.dropWhile_append_of_pos h

theorem trimStart_of_head {u : List Char} (h : ∀ c ∈ u.head?, isBlank c = false) :
    trimStart u = u := by
  cases u with
  | nil => rfl
  | cons c u => exact List.dropWhile_cons_of_neg (by simp [h c rfl])

theorem trimStart_eq_nil_iff : trimStart s = [] ↔ AllBlank s := List.dropWhile_eq_nil_iff

theorem trimEnd_append (s : List Char) (h : AllBlank r) : trimEnd (s ++ r) = trimEnd s := by
  unfold trimEnd dropEndWhile
  rw [List.reverse_append, List.dropWhile_append_of_pos fun c hc => h c (List.mem_reverse.mp hc)]

theorem exists_trimStart (s : List Char) : ∃ l, AllBlank l ∧ s = l ++ trimStart s :=
  ⟨s.takeWhile isBlank, fun _ hc => List.mem_takeWhile_imp hc,
    List.takeWhile_append_dropWhile.symm⟩

theorem exists_trimEnd (s : List Char) : ∃ r, AllBlank r ∧ s = trimEnd s ++ r := by
  refine ⟨(s.reverse.takeWhile isBlank).reverse, fun c hc => ?_, ?_⟩
  · exact List.mem_takeWhile_imp (List.mem_reverse.mp hc)
  · unfold trimEnd dropEndWhile
    rw [← List.reverse_append, List.takeWhile_append_dropWhile, List.reverse_reverse]

theorem exists_trim (s : List Char) : ∃ l r, AllBlank l ∧ AllBlank r ∧ s = l ++ (trim s ++ r) := by
  obtain ⟨l, hl, hs⟩ := exists_trimStart s
  obtain ⟨r, hr, ht⟩ := exists_trimEnd (trimStart s)
  exact ⟨l, r, hl, hr, by rw [trim, ← ht, ← hs]⟩

theorem infix_trim (s : List Char) : trim s <:+: s := by
  obtain ⟨l, r, -, -, h⟩ := exists_trim s
  exact ⟨l, r, by rw [List.append_assoc, ← h]⟩

/-- A text without white space at its ends. -/
def Trimmed (s : List Char) : Prop :=
  (∀ c ∈ s.head?, isBlank c = false) ∧ ∀ c ∈ s.getLast?, isBlank c = false

theorem trimEnd_of_getLast (h : ∀ c ∈ s.getLast?, isBlank c = false) : trimEnd s = s := by
  have hreverse := trimStart_of_head (u := s.reverse) (by rwa [List.head?_reverse])
  unfold trimEnd dropEndWhile
  rw [show s.reverse.dropWhile isBlank = s.reverse from hreverse, List.reverse_reverse]

theorem isBlank_getLast_trimEnd (s : List Char) : ∀ c ∈ (trimEnd s).getLast?, isBlank c = false := by
  intro c hc
  have h := List.head?_dropWhile_not isBlank s.reverse
  unfold trimEnd dropEndWhile at hc
  rw [List.getLast?_reverse] at hc
  rw [Option.mem_def.mp hc] at h
  exact h

theorem trimmed_trim (s : List Char) : Trimmed (trim s) := by
  refine ⟨fun c hc => ?_, isBlank_getLast_trimEnd _⟩
  obtain ⟨t, ht⟩ := List.head?_eq_some_iff.mp hc
  obtain ⟨r, -, hr⟩ := exists_trimEnd (trimStart s)
  rw [show trimEnd (trimStart s) = c :: t from ht] at hr
  have hhead := List.head?_dropWhile_not isBlank s
  rw [show s.dropWhile isBlank = c :: t ++ r from hr] at hhead
  exact hhead

theorem trim_eq (hl : AllBlank l) (hs : Trimmed s) (hr : AllBlank r) : trim (l ++ (s ++ r)) = s := by
  rw [trim, trimStart_append hl]
  cases s with
  | nil =>
      have hnil : trimStart (r ++ []) = [] := trimStart_append hr []
      rw [List.append_nil] at hnil
      rw [List.nil_append, hnil]
      rfl
  | cons c s =>
      have hhead : ∀ d ∈ (c :: s ++ r).head?, isBlank d = false := fun d hd => hs.1 d hd
      rw [trimStart_of_head hhead, trimEnd_append _ hr, trimEnd_of_getLast hs.2]

theorem trim_pad (hl : AllBlank l) (hr : AllBlank r) (s : List Char) :
    trim (l ++ (s ++ r)) = trim s := by
  obtain ⟨l', r', hl', hr', hs⟩ := exists_trim s
  have hall : l ++ (s ++ r) = (l ++ l') ++ (trim s ++ (r' ++ r)) := by
    conv_lhs => rw [hs]
    simp only [List.append_assoc]
  rw [hall]
  refine trim_eq ?_ (trimmed_trim s) ?_
  · exact fun c hc => (List.mem_append.mp hc).elim (hl c) (hl' c)
  · exact fun c hc => (List.mem_append.mp hc).elim (hr' c) (hr c)

theorem trim_trimEnd (s : List Char) : trim (trimEnd s) = trim s := by
  obtain ⟨r, hr, hs⟩ := exists_trimEnd s
  conv_rhs => rw [hs]
  exact (trim_pad (List.forall_mem_nil _) hr (trimEnd s)).symm

/-- What stands before the last word keeps its white space. -/
theorem trimEnd_append_of_ne_nil (h : trimEnd s ≠ []) (l : List Char) :
    trimEnd (l ++ s) = l ++ trimEnd s := by
  unfold trimEnd dropEndWhile at h ⊢
  rw [List.reverse_append, List.dropWhile_append, if_neg (by simpa using h), List.reverse_append,
    List.reverse_reverse]

theorem trimEnd_ne_nil (h : ¬AllBlank s) : trimEnd s ≠ [] := by
  intro hnil
  obtain ⟨r, hr, hs⟩ := exists_trimEnd s
  rw [hnil, List.nil_append] at hs
  exact h (hs ▸ hr)

theorem trim_append_between (hs : ¬AllBlank s) (ht : ¬AllBlank t) (m : List Char) :
    trim (s ++ (m ++ t)) = trimStart s ++ (m ++ trimEnd t) := by
  have hstart : trimStart (s ++ (m ++ t)) = trimStart s ++ (m ++ t) := by
    have hne : trimStart s ≠ [] := mt trimStart_eq_nil_iff.mp hs
    unfold trimStart at hne ⊢
    rw [List.dropWhile_append, if_neg (by simpa using hne)]
  rw [trim, hstart, ← List.append_assoc, trimEnd_append_of_ne_nil (trimEnd_ne_nil ht), List.append_assoc]

theorem EndsWord.trimEnd (h : EndsWord s) : EndsWord (trimEnd s) := by
  obtain ⟨r, -, hs⟩ := exists_trimEnd s
  intro c hc
  refine h c ?_
  rw [hs, List.head?_append, Option.mem_def.mp hc]
  rfl

theorem trim_of_trimmed (h : Trimmed s) : trim s = s := by
  have htrim := trim_eq (List.forall_mem_nil _) h (List.forall_mem_nil _)
  rwa [List.append_nil] at htrim

theorem trim_trim (s : List Char) : trim (trim s) = trim s := trim_of_trimmed (trimmed_trim s)

theorem trimmed_of_noBlank (h : NoBlank s) : Trimmed s :=
  ⟨fun c hc => h c (List.mem_of_head? hc), fun c hc => h c (List.mem_of_getLast? hc)⟩

theorem trim_append (hs : NoBlank s) (hr : AllBlank r) : trim (s ++ r) = s :=
  trim_eq (List.forall_mem_nil _) (trimmed_of_noBlank hs) hr

theorem trim_word (hw : NoBlank w) (hne : w ≠ []) (s : List Char) :
    trim (w ++ s) = w ++ trimEnd s := by
  obtain ⟨r, hr, hs⟩ := exists_trimEnd s
  have hends : Trimmed (w ++ trimEnd s) := by
    constructor
    · rw [List.head?_append, List.head?_eq_some_head hne]
      intro c hc
      rw [← Option.some.inj hc]
      exact hw _ (List.head_mem hne)
    · rw [List.getLast?_append]
      intro c hc
      cases hlast : (trimEnd s).getLast? with
      | none =>
          rw [hlast] at hc
          exact (trimmed_of_noBlank hw).2 c hc
      | some d =>
          rw [hlast] at hc
          obtain rfl := Option.some.inj hc
          exact isBlank_getLast_trimEnd s d hlast
  have htrim := trim_eq (List.forall_mem_nil _) hends hr
  rwa [List.nil_append, List.append_assoc, ← hs] at htrim

/-! ### Texts without white space -/

theorem ink_append (s t : List Char) : ink (s ++ t) = ink s ++ ink t := List.filter_append s t

theorem ink_cons_blank {c : Char} (hc : isBlank c = true) (s : List Char) : ink (c :: s) = ink s :=
  List.filter_cons_of_neg (by simp [hc])

theorem ink_cons_of_not_blank {c : Char} (hc : ¬isBlank c = true) (s : List Char) :
    ink (c :: s) = c :: ink s :=
  List.filter_cons_of_pos (by simp [hc])

theorem ink_of_allBlank {s : List Char} (h : AllBlank s) : ink s = [] := by
  apply List.filter_eq_nil_iff.mpr
  intro c hc
  rw [h c hc]
  decide

theorem ink_ink (s : List Char) : ink (ink s) = ink s := by
  unfold ink
  rw [List.filter_filter]
  simp only [Bool.and_self]

theorem ink_trimStart (s : List Char) : ink (trimStart s) = ink s := by
  obtain ⟨l, hl, hs⟩ := exists_trimStart s
  conv_rhs => rw [hs, ink_append, ink_of_allBlank hl]
  rfl

theorem ink_trimEnd (s : List Char) : ink (trimEnd s) = ink s := by
  obtain ⟨r, hr, hs⟩ := exists_trimEnd s
  conv_rhs => rw [hs, ink_append, ink_of_allBlank hr, List.append_nil]

/-! ### The first word -/

/-- The first word of a text and what follows it, up to one character of white space. -/
theorem exists_splitAtBlank (s : List Char) :
    ∃ tail, s = (splitAtBlank s).1 ++ tail ∧ EndsWord tail ∧ tail.drop 1 = (splitAtBlank s).2 := by
  refine ⟨s.dropWhile (!isBlank ·), List.takeWhile_append_dropWhile.symm, fun c hc => ?_, rfl⟩
  have h := List.head?_dropWhile_not (!isBlank ·) s
  rw [Option.mem_def] at hc
  rw [hc] at h
  simpa using h

theorem splitAtBlank_append (hw : NoBlank w) {tail : List Char} (ht : EndsWord tail) :
    splitAtBlank (w ++ tail) = (w, tail.drop 1) := by
  have hw' : ∀ c ∈ w, (!isBlank c) = true := fun c hc => by rw [hw c hc]; rfl
  unfold splitAtBlank
  rw [List.takeWhile_append_of_pos hw', List.dropWhile_append_of_pos hw']
  cases tail with
  | nil => simp
  | cons c tail =>
      have hc : isBlank c = true := ht c rfl
      rw [List.takeWhile_cons_of_neg (by simp [hc]), List.dropWhile_cons_of_neg (by simp [hc]),
        List.append_nil]

/-- The white space that ends a word does not count for what follows it. -/
theorem trim_drop_one {tail : List Char} (h : EndsWord tail) : trim (tail.drop 1) = trim tail := by
  cases tail with
  | nil => rfl
  | cons c tail =>
      have hc : isBlank c = true := h c rfl
      unfold trim trimStart
      rw [List.dropWhile_cons_of_pos hc]
      rfl

/-! ### Words -/

theorem wordsFrom_append (hw : NoBlank w) (read s : List Char) :
    wordsFrom read (w ++ s) = wordsFrom (w.reverse ++ read) s := by
  induction w generalizing read with
  | nil => rfl
  | cons c w ih =>
      obtain ⟨hc, hw⟩ := List.forall_mem_cons.mp hw
      rw [List.cons_append, wordsFrom, if_neg (by simp [hc]), ih hw]
      simp

theorem words_of_noBlank (hw : NoBlank w) (hne : w ≠ []) : words w = [w] := by
  have h := wordsFrom_append hw [] []
  rw [List.append_nil, List.append_nil] at h
  rw [words, h, wordsFrom, if_neg (by simpa using hne), List.reverse_reverse]

theorem words_append (hw : NoBlank w) (hne : w ≠ []) (hc : isBlank c = true) (s : List Char) :
    words (w ++ c :: s) = w :: words s := by
  rw [words, wordsFrom_append hw, List.append_nil, wordsFrom, if_pos hc,
    if_neg (by simpa using hne), List.reverse_reverse]
  rfl

/-! ### Separators -/

theorem dropLead?_eq_some {p : List Char} : dropLead? p s = some t ↔ s = p ++ t := by
  induction p generalizing s with
  | nil => simp [dropLead?]
  | cons a p ih =>
      cases s with
      | nil => simp [dropLead?]
      | cons b s =>
          by_cases hab : a = b
          · simp [dropLead?, hab, ih]
          · simp [dropLead?, hab, Ne.symm hab]

theorem eq_of_splitOnce {sep : List Char} (h : splitOnce sep s = some (before, after)) :
    s = before ++ (sep ++ after) := by
  induction s generalizing before with
  | nil =>
      unfold splitOnce at h
      by_cases hsep : sep.isEmpty = true
      · rw [if_pos hsep] at h
        obtain ⟨rfl, rfl⟩ := Prod.mk.inj (Option.some.inj h)
        rw [List.isEmpty_iff.mp hsep]
        rfl
      · rw [if_neg hsep] at h
        cases h
  | cons c s ih =>
      unfold splitOnce at h
      cases hd : dropLead? sep (c :: s) with
      | some rest =>
          rw [hd] at h
          obtain ⟨hb, ha⟩ := Prod.mk.inj (Option.some.inj h)
          rw [dropLead?_eq_some.mp hd, ← hb, ← ha]
          rfl
      | none =>
          rw [hd] at h
          obtain ⟨⟨b, a⟩, hs, hba⟩ := Option.map_eq_some_iff.mp h
          obtain ⟨rfl, rfl⟩ := Prod.mk.inj hba
          rw [ih hs]
          rfl

/-- A text is cut at a separator that starts at no place before. -/
theorem splitOnce_append {sep : List Char} (hsep : sep ≠ [])
    (h : ∀ l r, before = l ++ r → r ≠ [] → dropLead? sep (r ++ (sep ++ after)) = none) :
    splitOnce sep (before ++ (sep ++ after)) = some (before, after) := by
  induction before with
  | nil =>
      have hd : dropLead? sep (sep ++ after) = some after := dropLead?_eq_some.mpr rfl
      rw [List.nil_append]
      cases hs : sep ++ after with
      | nil => exact absurd (List.append_eq_nil_iff.mp hs).1 hsep
      | cons c s =>
          rw [hs] at hd
          rw [splitOnce, hd]
  | cons c before ih =>
      have hc := h [] (c :: before) rfl (List.cons_ne_nil _ _)
      rw [List.cons_append] at hc ⊢
      rw [splitOnce, hc, ih fun l r hlr hr => h (c :: l) r (by rw [hlr]; rfl) hr]
      rfl

theorem splitOnce_char (h : c ∉ before) : splitOnce [c] (before ++ c :: after) = some (before, after) := by
  refine splitOnce_append (List.cons_ne_nil c []) fun l r hlr hr => ?_
  cases r with
  | nil => exact absurd rfl hr
  | cons d r =>
      have hd : c ≠ d := by
        rintro rfl
        exact h (by rw [hlr]; exact List.mem_append_right _ List.mem_cons_self)
      rw [List.cons_append, dropLead?, if_neg hd]

/-- A text that starts with a word is cut at the first ` in ` behind that. -/
theorem splitOnce_in (hw : NoBlank w) (hr : AllBlank r) :
    splitOnce " in ".toList (w ++ r ++ (" in ".toList ++ after)) = some (w ++ r, after) := by
  refine splitOnce_append (by decide) fun l u hlu hu => ?_
  show dropLead? [' ', 'i', 'n', ' '] (u ++ ([' ', 'i', 'n', ' '] ++ after)) = none
  rw [← Option.not_isSome_iff_eq_none, Option.isSome_iff_exists]
  rintro ⟨v, hv⟩
  have heq := dropLead?_eq_some.mp hv
  -- The separator would start with the last blanks before it, and go on with no blank.
  cases u with
  | nil => exact hu rfl
  | cons d u =>
      obtain ⟨hd, hrest⟩ := List.cons.inj heq
      cases u with
      | nil => exact absurd (List.cons.inj hrest).1 (by decide)
      | cons e u =>
          have he : e = 'i' := (List.cons.inj hrest).1
          have hblank : ∀ x ∈ d :: e :: u, isBlank x = true := by
            rcases List.append_eq_append_iff.mp hlu with ⟨k, hk, hk'⟩ | ⟨k, hk, hk'⟩
            · intro x hx
              exact hr x (by rw [hk']; exact List.mem_append_right _ hx)
            · cases k with
              | nil =>
                  intro x hx
                  rw [List.nil_append] at hk'
                  exact hr x (by rwa [← hk'])
              | cons y k =>
                  obtain ⟨rfl, -⟩ := List.cons.inj hk'
                  have := hw d (by rw [hk]; exact List.mem_append_right _ List.mem_cons_self)
                  rw [hd] at this
                  exact absurd this (by decide)
          have := hblank e (List.mem_cons_of_mem _ List.mem_cons_self)
          rw [he] at this
          exact absurd this (by decide)

end ClassScribe.Text
