import ClassScribe.Proofs.Outcome
import ClassScribe.Proofs.Text.Splitting
import ClassScribe.Schema.ValueType

/-! # The grammar of type tags

A tag is a word for a scalar, a free name, or a tag between the opening and the closing of an array, with white space
around each of these (`Denotes`). What the grammar says is what is read (`ofTag_eq_ok_iff`). -/

namespace ClassScribe.ValueType
open Text (trim dropTail? dropLead?)

variable {s r inner : List Char} {t element : ValueType} {kind : Scalar}

/-- The words that stand for scalars. -/
def scalarWords : List String := ["String", "Number", "Integer", "Float", "Double", "Boolean"]

/-- The words that stand for a scalar, its own tag among them. -/
def wordsFor : Scalar → List String
  | .string => ["String"]
  | .number => ["Number", "Integer", "Float", "Double"]
  | .boolean => ["Boolean"]

/-- The name of a type that is defined elsewhere. -/
structure IsTypeName (name : String) : Prop where
  nonempty : name.toList ≠ []
  parts : ∀ c ∈ name.toList, isNamePart c = true
  free : name ∉ scalarWords

/-- The openings of array tags. -/
def arrayOpenings : List String := ["Array<", "List<"]

/-- The type that a text stands for. White space around the text, and around what is between the brackets of an array,
does not count. -/
inductive Denotes : List Char → ValueType → Prop
  | scalar {s : List Char} {kind : Scalar} {word : String} (hword : word ∈ wordsFor kind)
      (hs : trim s = word.toList) : Denotes s (.scalar kind)
  | named {s : List Char} {name : String} (hname : IsTypeName name) (hs : trim s = name.toList) :
      Denotes s (.named name)
  | array {s inner : List Char} {element : ValueType} {opening : String} (hopening : opening ∈ arrayOpenings)
      (hs : trim s = opening.toList ++ (inner ++ ['>'])) (hinner : Denotes inner element) :
      Denotes s (.array element)

/-! ### Characters of names -/

/-- The characters of white space, one after the other. -/
def blankCodes : List Nat := Text.blanks.flatMap fun r => List.range' r.1 (r.2 + 1 - r.1)

theorem mem_blankCodes {c : Char} (h : Text.isBlank c = true) : c.toNat ∈ blankCodes := by
  obtain ⟨r, hr, hlow, hhigh⟩ := Text.inRanges_iff.mp h
  exact List.mem_flatMap.mpr ⟨r, hr, List.mem_range'_1.mpr ⟨hlow, by omega⟩⟩

theorem isNamePart_blankCodes : ∀ n ∈ blankCodes, isNamePart (Char.ofNat n) = false := by decide +kernel

theorem isNamePart_spec {c : Char} (h : isNamePart c = true) : Text.isBlank c = false ∧ c ≠ '<' := by
  refine ⟨?_, ?_⟩
  · rw [← Bool.not_eq_true]
    intro hblank
    have hpart := isNamePart_blankCodes _ (mem_blankCodes hblank)
    rw [Char.ofNat_toNat, h] at hpart
    cases hpart
  · rintro rfl
    revert h
    decide +kernel

/-! ### Words -/

/-- The words for scalars are those that names may not be. -/
theorem mem_wordsFor_iff {word : String} : (∃ kind, word ∈ wordsFor kind) ↔ word ∈ scalarWords := by
  constructor
  · rintro ⟨kind, h⟩
    have hall : ∀ kind, ∀ word ∈ wordsFor kind, word ∈ scalarWords := by
      intro kind
      cases kind <;> decide
    exact hall kind word h
  · intro h
    have hall : ∀ word ∈ scalarWords, ∃ kind ∈ [Scalar.string, .number, .boolean], word ∈ wordsFor kind := by
      decide
    obtain ⟨kind, -, hword⟩ := hall word h
    exact ⟨kind, hword⟩

theorem ofWord_of_mem_wordsFor {word : String} (h : word ∈ wordsFor kind) :
    ofWord word.toList = .ok (.scalar kind) := by
  unfold ofWord
  rw [String.ofList_toList]
  cases kind <;> simp only [wordsFor, List.mem_cons, List.not_mem_nil, or_false] at h
  · rw [h]
    rfl
  · rcases h with rfl | rfl | rfl | rfl <;> rfl
  · rw [h]
    rfl

theorem ofWord_of_not_mem (h : String.ofList s ∉ scalarWords) :
    ofWord s = if !s.isEmpty && s.all isNamePart then .ok (.named (String.ofList s))
      else .error (.invalid (String.ofList s)) := by
  simp only [scalarWords, List.mem_cons, List.not_mem_nil, or_false, not_or] at h
  obtain ⟨h1, h2, h3, h4, h5, h6⟩ := h
  unfold ofWord
  dsimp only
  rw [if_neg h1, if_neg (by simp [h2, h3, h4, h5]), if_neg h6]

theorem IsTypeName.ofWord_eq {name : String} (h : IsTypeName name) :
    ofWord name.toList = .ok (.named name) := by
  have hfree : String.ofList name.toList ∉ scalarWords := by
    rw [String.ofList_toList]
    exact h.free
  rw [ofWord_of_not_mem hfree, String.ofList_toList, if_pos]
  simp only [Bool.and_eq_true, Bool.not_eq_true', List.isEmpty_eq_false_iff, List.all_eq_true]
  exact ⟨h.nonempty, h.parts⟩

/-- A word stands for the scalar that it is a word for, or else for itself as a name. -/
theorem exists_of_ofWord (h : ofWord s = .ok t) :
    (∃ kind, ∃ word ∈ wordsFor kind, s = word.toList ∧ t = .scalar kind) ∨
      ∃ name, IsTypeName name ∧ s = name.toList ∧ t = .named name := by
  have hs : s = (String.ofList s).toList := String.toList_ofList.symm
  by_cases hmem : String.ofList s ∈ scalarWords
  · obtain ⟨kind, hword⟩ := mem_wordsFor_iff.mpr hmem
    have hscalar := ofWord_of_mem_wordsFor hword
    rw [← hs, h] at hscalar
    exact .inl ⟨kind, _, hword, hs, Except.ok.inj hscalar⟩
  · rw [ofWord_of_not_mem hmem] at h
    split at h
    · next hname =>
        simp only [Bool.and_eq_true, Bool.not_eq_true', List.isEmpty_eq_false_iff, List.all_eq_true] at hname
        rw [hs] at hname
        exact .inr ⟨_, ⟨hname.1, hname.2, hmem⟩, hs, (Except.ok.inj h).symm⟩
    · cases h

/-! ### Brackets -/

theorem bracket_not_mem_word {word : String} (h : word ∈ wordsFor kind) : '<' ∉ word.toList := by
  have hall : ∀ kind, ∀ word ∈ wordsFor kind, '<' ∉ word.toList := by
    intro kind
    cases kind <;> decide
  exact hall kind word h

theorem IsTypeName.bracket_not_mem {name : String} (h : IsTypeName name) : '<' ∉ name.toList :=
  fun hc => (isNamePart_spec (h.parts _ hc)).2 rfl

theorem afterArray?_eq_some_iff :
    afterArray? s = some r ↔ ∃ opening ∈ arrayOpenings, s = opening.toList ++ r := by
  unfold afterArray?
  simp only [arrayOpenings, List.mem_cons, List.not_mem_nil, or_false, exists_eq_or_imp, exists_eq_left]
  rw [Option.or_eq_some_iff, Text.dropLead?_eq_some, Text.dropLead?_eq_some]
  refine or_congr_right (and_iff_right_of_imp ?_)
  rintro rfl
  rfl

/-- No scalar and no name starts as an array does. -/
theorem afterArray?_eq_none (h : '<' ∉ s) : afterArray? s = none := by
  rw [Option.eq_none_iff_forall_ne_some]
  intro r hr
  obtain ⟨opening, hopening, rfl⟩ := afterArray?_eq_some_iff.mp hr
  have hall : ∀ opening ∈ arrayOpenings, '<' ∈ opening.toList := by decide
  exact h (List.mem_append_left r (hall opening hopening))

theorem dropTail?_concat (s : List Char) (c : Char) : dropTail? [c] (s ++ [c]) = some s := by
  have hlead : dropLead? [c] (c :: s.reverse) = some s.reverse := Text.dropLead?_eq_some.mpr rfl
  rw [dropTail?, List.reverse_singleton, List.reverse_append, List.reverse_singleton,
    List.singleton_append, hlead, Option.map_some, List.reverse_reverse]

theorem dropTail?_eq_some_iff {c : Char} : dropTail? [c] s = some r ↔ s = r ++ [c] := by
  refine ⟨fun h => ?_, fun h => h ▸ dropTail?_concat r c⟩
  obtain ⟨front, hfront, rfl⟩ := Option.map_eq_some_iff.mp h
  rw [← List.reverse_reverse s, Text.dropLead?_eq_some.mp hfront, List.reverse_append, List.reverse_reverse]

/-! ### Reading -/

theorem ofChars_eq_ofWord (h : '<' ∉ trim s) : ofChars s = ofWord (trim s) := by
  rw [ofChars]
  split
  · rfl
  · next hr =>
      rw [afterArray?_eq_none h] at hr
      cases hr

/-- Between the opening and the closing of an array, the type of the elements is read. -/
theorem ofChars_eq_array {opening : String} (hopening : opening ∈ arrayOpenings)
    (hs : trim s = opening.toList ++ (inner ++ ['>'])) : ofChars s = (ofChars inner).map .array := by
  have harray : afterArray? (trim s) = some (inner ++ ['>']) :=
    afterArray?_eq_some_iff.mpr ⟨opening, hopening, hs⟩
  rw [ofChars]
  split
  · next hnone =>
      rw [harray] at hnone
      cases hnone
  · next rest hrest =>
      rw [harray] at hrest
      obtain rfl := Option.some.inj hrest
      split
      · next hnone =>
          rw [dropTail?_concat] at hnone
          cases hnone
      · next inner' hinner =>
          rw [dropTail?_concat] at hinner
          rw [Option.some.inj hinner]

theorem Denotes.ofChars_eq (h : Denotes s t) : ofChars s = .ok t := by
  induction h with
  | scalar hword hs =>
      rw [ofChars_eq_ofWord (hs ▸ bracket_not_mem_word hword), hs]
      exact ofWord_of_mem_wordsFor hword
  | named hname hs =>
      rw [ofChars_eq_ofWord (hs ▸ hname.bracket_not_mem), hs]
      exact hname.ofWord_eq
  | array hopening hs _ ih =>
      rw [ofChars_eq_array hopening hs, ih]
      rfl

theorem denotes_of_ofChars (h : ofChars s = .ok t) : Denotes s t := by
  fun_induction ofChars s generalizing t with
  | case1 s hword =>
      rcases exists_of_ofWord h with ⟨kind, word, hword, hs, rfl⟩ | ⟨name, hname, hs, rfl⟩
      · exact .scalar hword hs
      · exact .named hname hs
  | case2 s rest hrest hnone => cases h
  | case3 s rest hrest inner hinner ih =>
      obtain ⟨element, helement, rfl⟩ := map_eq_ok.mp h
      obtain ⟨opening, hopening, hs⟩ := afterArray?_eq_some_iff.mp hrest
      rw [dropTail?_eq_some_iff.mp hinner] at hs
      exact .array hopening hs (ih helement)

/-- A text is read as a type just if it stands for it. -/
theorem ofTag_eq_ok_iff {text : String} : ofTag text = .ok t ↔ Denotes text.toList t :=
  ⟨denotes_of_ofChars, Denotes.ofChars_eq⟩

end ClassScribe.ValueType
