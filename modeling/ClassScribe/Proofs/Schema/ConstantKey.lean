import Mathlib.Data.List.TakeWhile
import ClassScribe.Proofs.Text.Casing
import ClassScribe.Schema.Naming

/-! # Constant keys

The key of a name has the letters and digits of the name in capitals, and says where its words meet: underscores are
put in (`Separates`), in any case behind a small letter before a capital, and nothing else happens to the name
(`constantKey_canonical`). A key is its own key. -/

namespace ClassScribe.Naming
open Text

variable {name s t : List Char} {c d : Char}

/-- A text without its underscores. -/
def dropUnderscores (s : List Char) : List Char := s.filter (· != '_')

theorem dropUnderscores_append (s t : List Char) :
    dropUnderscores (s ++ t) = dropUnderscores s ++ dropUnderscores t := List.filter_append s t

theorem dropUnderscores_cons_mark (s : List Char) : dropUnderscores ('_' :: s) = dropUnderscores s := rfl

theorem dropUnderscores_cons_congr (c : Char) (h : dropUnderscores s = dropUnderscores t) :
    dropUnderscores (c :: s) = dropUnderscores (c :: t) := by
  rw [← List.singleton_append, dropUnderscores_append, h, ← dropUnderscores_append, List.singleton_append]

theorem dropUnderscores_map_toUpper (h : IsAscii s) :
    dropUnderscores (s.map Char.toUpper) = (dropUnderscores s).map Char.toUpper := by
  have hmark : ∀ c ∈ s, (c.toUpper != '_') = (c != '_') := fun c hc =>
    of_ascii (P := fun c => (c.toUpper != '_') = (c != '_')) (by decide) (h c hc)
  unfold dropUnderscores
  rw [List.filter_map]
  exact congrArg _ (List.filter_congr hmark)

/-! ### Words that are kept apart -/

/-- Whether the second text is the first one with underscores put behind some of its characters, among them every
small letter before a capital. -/
inductive Separates : List Char → List Char → Prop
  | nil : Separates [] []
  | keep {c : Char} {s t : List Char} (hmeet : isSmall c = true → ∀ d ∈ s.head?, isCapital d = false)
      (h : Separates s t) : Separates (c :: s) (c :: t)
  | mark {c : Char} {s t : List Char} (h : Separates s t) : Separates (c :: s) (c :: '_' :: t)

namespace Separates

/-- Only a small letter can ask for an underscore. -/
theorem other (hc : isSmall c = false) (h : Separates s t) : Separates (c :: s) (c :: t) := by
  refine keep (fun hsmall => ?_) h
  rw [hc] at hsmall
  cases hsmall

theorem run {run : List Char} (hrun : ∀ c ∈ run, isSmall c = false) (h : Separates s t) :
    Separates (run ++ s) (run ++ t) := by
  induction run with
  | nil => exact h
  | cons c run ih =>
      obtain ⟨hc, hrun⟩ := List.forall_mem_cons.mp hrun
      exact other hc (ih hrun)

theorem markedRun {run : List Char} (hrun : ∀ c ∈ run, isSmall c = false) (hne : run ≠ [])
    (h : Separates s t) : Separates (run ++ s) (run ++ '_' :: t) := by
  obtain ⟨front, last, rfl⟩ := (List.eq_nil_or_concat run).resolve_left hne
  simp only [List.concat_eq_append, List.append_assoc, List.singleton_append] at hrun ⊢
  exact .run (fun c hc => hrun c (List.mem_append_left _ hc)) (mark h)

theorem dropUnderscores_eq (h : Separates s t) : dropUnderscores t = dropUnderscores s := by
  induction h with
  | nil => rfl
  | keep _ _ ih => exact dropUnderscores_cons_congr _ ih
  | mark _ ih => exact dropUnderscores_cons_congr _ ((dropUnderscores_cons_mark _).trans ih)

theorem mem (h : Separates s t) (hc : c ∈ t) : c ∈ s ∨ c = '_' := by
  induction h with
  | nil => cases hc
  | keep _ _ ih =>
      rcases List.mem_cons.mp hc with rfl | hc
      · exact .inl List.mem_cons_self
      · exact (ih hc).imp_left (List.mem_cons_of_mem _)
  | mark _ ih =>
      rcases List.mem_cons.mp hc with rfl | hc
      · exact .inl List.mem_cons_self
      · rcases List.mem_cons.mp hc with rfl | hc
        · exact .inr rfl
        · exact (ih hc).imp_left (List.mem_cons_of_mem _)

theorem between {u v : List Char} (h : Separates (u ++ c :: d :: v) t) (hc : isSmall c = true)
    (hd : isCapital d = true) :
    ∃ a b, t = a ++ c :: '_' :: d :: b ∧ dropUnderscores a = dropUnderscores u ∧
      dropUnderscores b = dropUnderscores v := by
  induction u generalizing t with
  | nil =>
      rcases h with _ | ⟨hmeet, -⟩ | h
      · have hnot := hmeet hc d rfl
        rw [hd] at hnot
        cases hnot
      · rcases h with _ | ⟨-, h⟩ | h
        · exact ⟨[], _, rfl, rfl, h.dropUnderscores_eq⟩
        · exact ⟨[], _, rfl, rfl, h.dropUnderscores_eq⟩
  | cons x u ih =>
      rcases h with _ | ⟨-, h⟩ | h
      · obtain ⟨a, b, rfl, ha, hb⟩ := ih h
        exact ⟨x :: a, b, rfl, dropUnderscores_cons_congr x ha, hb⟩
      · obtain ⟨a, b, rfl, ha, hb⟩ := ih h
        exact ⟨x :: '_' :: a, b, rfl, dropUnderscores_cons_congr x ha, hb⟩

end Separates

theorem isSmall_of_run {rest : List Char} (hcd : (isCapital c && isCapital d) = true) :
    ∀ x ∈ c :: d :: rest.takeWhile isCapital, isSmall x = false := by
  rw [Bool.and_eq_true] at hcd
  exact List.forall_mem_cons.mpr ⟨isSmall_of_isCapital hcd.1, List.forall_mem_cons.mpr
    ⟨isSmall_of_isCapital hcd.2, fun x hx => isSmall_of_isCapital (List.mem_takeWhile_imp hx)⟩⟩

/-- Three or more capitals are parted before the last one. -/
theorem separates_capitals {rest : List Char} (hcd : (isCapital c && isCapital d) = true)
    (hne : ¬(rest.takeWhile isCapital).isEmpty = true) (h : Separates (rest.dropWhile isCapital) t) :
    Separates (c :: d :: rest) (c :: d :: (rest.takeWhile isCapital).dropLast ++
      '_' :: (rest.takeWhile isCapital).getLast?.toList ++ t) := by
  have hrun : ∀ x ∈ c :: d :: rest.takeWhile isCapital, isSmall x = false := isSmall_of_run hcd
  conv => arg 1; rw [← List.takeWhile_append_dropWhile (p := isCapital) (l := rest)]
  obtain ⟨front, last, hlast⟩ := (List.eq_nil_or_concat _).resolve_left (mt List.isEmpty_iff.mpr hne)
  rw [List.concat_eq_append] at hlast
  rw [hlast] at hrun ⊢
  rw [← List.cons_append, ← List.cons_append] at hrun
  have hall := Separates.markedRun (fun x hx => hrun x (List.mem_append_left _ hx)) (List.cons_ne_nil _ _)
    (Separates.other (hrun last (by simp)) h)
  simpa using hall

/-- A step of the separation for each way in which words can meet. -/
theorem separates_separateWords (s : List Char) : Separates s (separateWords s) := by
  fun_induction separateWords s with
  | case1 => exact .nil
  | case2 c => exact .keep (fun _ => nofun) .nil
  | case3 c d rest hc hmeet ih =>
      refine .mark (.keep (fun hd => ?_) ih)
      obtain ⟨hlt, hcapital, hdigit, -⟩ := isSmall_spec hd
      rw [hcapital, isDecimalDigit_of_ascii hlt, hdigit] at hmeet
      cases hmeet
  | case4 c d rest hc hmeet ih =>
      refine .keep (fun _ e he => ?_) ih
      rw [← Option.some.inj he, ← Bool.not_eq_true]
      intro hd
      exact hmeet (by rw [hd]; rfl)
  | case5 c d rest hc hcd run after digit hafter hdigit =>
      have hrest : rest = run ++ [digit] := by rw [← hafter, List.takeWhile_append_dropWhile]
      rw [hrest]
      exact .markedRun (isSmall_of_run hcd) (List.cons_ne_nil _ _) (.keep (fun _ => nofun) .nil)
  | case6 c d rest hc hcd run after digit hafter hdigit hrun ih => exact .other (Bool.eq_false_iff.mpr hc) ih
  | case7 c d rest hc hcd run after digit hafter hdigit hrun ih => exact separates_capitals hcd hrun ih
  | case8 c d rest hc hcd run after hrun hafter ih => exact .other (Bool.eq_false_iff.mpr hc) ih
  | case9 c d rest hc hcd run after hrun hafter ih => exact separates_capitals hcd hrun ih
  | case10 c d rest hc hcd ih => exact .other (Bool.eq_false_iff.mpr hc) ih

/-! ### Keys of identifiers -/

/-- A name of capitals, digits and underscores is a constant, and only such a name. -/
theorem isConstant_iff (h : IsAscii s) :
    isConstant s = true ↔ s ≠ [] ∧ ∀ c ∈ s, isCapital c = true ∨ c.isDigit = true ∨ c = '_' := by
  have hpart : ∀ c ∈ s, (isCapital c || c == '_' || isDecimalDigit c) = true ↔
      isCapital c = true ∨ c.isDigit = true ∨ c = '_' := by
    intro c hc
    rw [isDecimalDigit_of_ascii (h c hc), Bool.or_eq_true, Bool.or_eq_true, beq_iff_eq, or_assoc,
      or_comm (a := c = '_')]
  unfold isConstant
  rw [Bool.and_eq_true, List.all_eq_true, Bool.not_eq_true', List.isEmpty_eq_false_iff]
  exact and_congr_right fun _ => forall₂_congr hpart

theorem isSmall_of_isConstant (h : IsAscii s) (hs : isConstant s = true) (hc : c ∈ s) : isSmall c = false := by
  rw [← Bool.not_eq_true]
  intro hsmall
  obtain ⟨-, hcapital, hdigit, hmark⟩ := isSmall_spec hsmall
  rcases ((isConstant_iff h).mp hs).2 c hc with h' | h' | h'
  · rw [hcapital] at h'
    cases h'
  · rw [hdigit] at h'
    cases h'
  · exact hmark h'

/-- Whether a name is a constant or not, its key is the capital form of the name with underscores put in. -/
theorem exists_separated (h : ∀ c ∈ name, isIdentPart c = true) :
    ∃ t, constantKey name = upper t ∧ IsAscii t ∧ Separates name t := by
  have hascii := isAscii_of_isIdentPart h
  unfold constantKey
  by_cases hconstant : isConstant name = true
  · have hsmall : ∀ c ∈ name, isSmall c = false := fun c hc => isSmall_of_isConstant hascii hconstant hc
    rw [if_pos hconstant]
    have hsame := Separates.run hsmall .nil
    rw [List.append_nil] at hsame
    exact ⟨name, (upper_of_no_small hascii hsmall).symm, hascii, hsame⟩
  · rw [if_neg hconstant]
    refine ⟨separateWords name, rfl, fun c hc => ?_, separates_separateWords name⟩
    rcases (separates_separateWords name).mem hc with hc | rfl
    · exact hascii c hc
    · decide

theorem mem_constantKey (h : ∀ c ∈ name, isIdentPart c = true) (hc : c ∈ constantKey name) :
    isCapital c = true ∨ c.isDigit = true ∨ c = '_' := by
  obtain ⟨t, hkey, hascii, hparted⟩ := exists_separated h
  rw [hkey, upper_of_ascii hascii] at hc
  obtain ⟨d, hd, rfl⟩ := List.mem_map.mp hc
  have hpart : isIdentPart d = true := (hparted.mem hd).elim (h d) fun hmark => by rw [hmark]; decide
  refine of_ascii (P := fun d => isIdentPart d = true →
    isCapital d.toUpper = true ∨ d.toUpper.isDigit = true ∨ d.toUpper = '_') ?_ (hascii d hd) hpart
  decide

theorem isAscii_constantKey (h : ∀ c ∈ name, isIdentPart c = true) : IsAscii (constantKey name) := by
  obtain ⟨t, hkey, hascii, -⟩ := exists_separated h
  rw [hkey, upper_of_ascii hascii]
  exact isAscii_map lt_toUpper hascii

theorem dropUnderscores_upper (h : IsAscii s) :
    dropUnderscores (upper s) = (dropUnderscores s).map Char.toUpper := by
  rw [upper_of_ascii h, dropUnderscores_map_toUpper h]

theorem dropUnderscores_constantKey (h : ∀ c ∈ name, isIdentPart c = true) :
    dropUnderscores (constantKey name) = dropUnderscores (upper name) := by
  obtain ⟨t, hkey, hascii, hparted⟩ := exists_separated h
  rw [hkey, dropUnderscores_upper hascii, dropUnderscores_upper (isAscii_of_isIdentPart h),
    hparted.dropUnderscores_eq]

/-- In the key an underscore stands between a small letter and a capital behind it. -/
theorem exists_between_constantKey {u v : List Char} (h : ∀ x ∈ u ++ c :: d :: v, isIdentPart x = true)
    (hc : isSmall c = true) (hd : isCapital d = true) :
    ∃ a b, constantKey (u ++ c :: d :: v) = a ++ c.toUpper :: '_' :: d :: b ∧
      dropUnderscores a = dropUnderscores (upper u) ∧
      dropUnderscores b = dropUnderscores (upper v) := by
  obtain ⟨t, hkey, hascii, hparted⟩ := exists_separated h
  obtain ⟨a, b, rfl, ha, hb⟩ := hparted.between hc hd
  have hname := isAscii_of_isIdentPart h
  have hu : IsAscii u := fun x hx => hname x (by simp [hx])
  have hv : IsAscii v := fun x hx => hname x (by simp [hx])
  have ha' : IsAscii a := fun x hx => hascii x (by simp [hx])
  have hb' : IsAscii b := fun x hx => hascii x (by simp [hx])
  have hcapital : d.toUpper = d := toUpper_of_not_isSmall (hname d (by simp)) (isSmall_of_isCapital hd)
  refine ⟨upper a, upper b, ?_, ?_, ?_⟩
  · rw [hkey, upper_of_ascii hascii, upper_of_ascii ha', upper_of_ascii hb', List.map_append, List.map_cons,
      List.map_cons, List.map_cons, hcapital]
    rfl
  · rw [dropUnderscores_upper ha', dropUnderscores_upper hu, ha]
  · rw [dropUnderscores_upper hb', dropUnderscores_upper hv, hb]

theorem constantKey_constantKey (h : ∀ c ∈ name, isIdentPart c = true) :
    constantKey (constantKey name) = constantKey name := by
  by_cases hne : constantKey name = []
  · rw [hne]
    simp [constantKey, isConstant, separateWords, upper]
  · have hconstant : isConstant (constantKey name) = true :=
      (isConstant_iff (isAscii_constantKey h)).mpr ⟨hne, fun _ => mem_constantKey h⟩
    conv_lhs => rw [constantKey, if_pos hconstant]

/-- The key of an identifier: capitals, digits and underscores, with the letters and digits of the name; an
underscore wherever a small letter stands before a capital; and its own key. -/
theorem constantKey_canonical (h : ∀ c ∈ name, isIdentPart c = true) :
    (∀ c ∈ constantKey name, isCapital c = true ∨ c.isDigit = true ∨ c = '_') ∧
    dropUnderscores (constantKey name) = dropUnderscores (upper name) ∧
    (∀ u c d v, name = u ++ c :: d :: v → isSmall c = true → isCapital d = true →
      ∃ a b, constantKey name = a ++ c.toUpper :: '_' :: d :: b ∧
        dropUnderscores a = dropUnderscores (upper u) ∧
        dropUnderscores b = dropUnderscores (upper v)) ∧
    constantKey (constantKey name) = constantKey name := by
  refine ⟨fun _ => mem_constantKey h, dropUnderscores_constantKey h, ?_, constantKey_constantKey h⟩
  rintro u c d v rfl hc hd
  exact exists_between_constantKey h hc hd

/-- A name in which a small letter, several capitals and a digit at the end make words meet. -/
theorem constantKey_canonical_token :
    (∀ c ∈ "myURLToken2".toList, isIdentPart c = true) ∧
    constantKey "myURLToken2".toList = "MY_URL_TOKEN_2".toList ∧
    dropUnderscores "MY_URL_TOKEN_2".toList = dropUnderscores (upper "myURLToken2".toList) ∧
    (∃ a b, "MY_URL_TOKEN_2".toList = a ++ 'Y' :: '_' :: 'U' :: b ∧
      dropUnderscores a = dropUnderscores (upper ['m']) ∧
      dropUnderscores b = dropUnderscores (upper "RLToken2".toList)) ∧
    constantKey "MY_URL_TOKEN_2".toList = "MY_URL_TOKEN_2".toList := by
  have hname : ∀ c ∈ "myURLToken2".toList, isIdentPart c = true := List.all_eq_true.mp (by decide)
  have hkey : constantKey "myURLToken2".toList = "MY_URL_TOKEN_2".toList := by decide +kernel
  obtain ⟨-, hdrop, hbetween, hagain⟩ := constantKey_canonical hname
  obtain ⟨a, b, hab⟩ := hbetween ['m'] 'y' 'U' "RLToken2".toList (by decide) (by decide) (by decide)
  rw [hkey] at hdrop hagain hab
  exact ⟨hname, hkey, hdrop, ⟨a, b, hab⟩, hagain⟩

end ClassScribe.Naming
