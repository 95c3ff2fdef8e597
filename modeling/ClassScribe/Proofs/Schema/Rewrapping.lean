import ClassScribe.Proofs.Schema.Cleaning
import ClassScribe.Proofs.Text.Filling
import ClassScribe.Schema.ClassSpec

/-! # Comments in lines of other widths

Comments that are put into lines of another width are joined, cleaned and filled once more. If all words fit, the
lines of the first time only put spaces between the words, and the width of the first time is forgotten unless a note
is left in the cleaned comment (`Method.rewrap_rewrap_iff`): then it is dropped the second time, with all text behind
it. No note is left if no line ends with the opening of one (`rewrap_rewrap`). -/

namespace ClassScribe

/-! ### Comments of accessors -/

namespace Method
open Text Naming

variable {m : Method} {v w : Nat}

/-- The comment of accessors in one line. -/
def joined (m : Method) : String := joinWith " " m.description

/-- The comment in one line, cleaned. -/
def cleaned (m : Method) : List Char := cleanDescription [m.joined.toList]

/-- The number of characters that a line of the comment has room for. -/
def lineWidth (width : Nat) (m : Method) : Nat :=
  max (width - m.type.tag.toList.length - m.argument.toList.length) 1

/-- The accessors without their comment. -/
def uncommented (m : Method) : Method := { m with description := [] }

theorem toList_joined (m : Method) :
    m.joined.toList = [' '].intercalate (m.description.map String.toList) := String.toList_intercalate

/-- Accessors without a comment are no case of their own: nothing is filled with nothing. -/
theorem rewrap_eq (width : Nat) (m : Method) :
    m.rewrap width = { m with description := describe width m.type m.argument m.cleaned } := by
  unfold rewrap
  by_cases h : m.description.isEmpty = true
  · obtain ⟨key, argument, type, title, description, external, origin⟩ := m
    obtain rfl : description = [] := List.isEmpty_iff.mp h
    have hnil : cleanDescription [[]] = [] := by
      simp [cleanDescription, collapse, trim, trimStart, trimEnd, dropEndWhile]
    have hdescribe : describe width type argument (cleanDescription [[]]) = [] := by
      rw [hnil]
      rfl
    rw [if_pos h]
    exact congrArg (Method.mk key argument type title · external origin) hdescribe.symm
  · rw [if_neg h]
    rfl

theorem uncommented_rewrap (width : Nat) (m : Method) : (m.rewrap width).uncommented = m.uncommented := by
  rw [rewrap_eq]
  rfl

/-- Only the cleaned comment decides what the second filling gives. -/
theorem rewrap_rewrap_eq_iff :
    (m.rewrap v).rewrap w = m.rewrap w ↔
      fill (w - m.type.tag.toList.length - m.argument.toList.length) (m.rewrap v).cleaned =
      fill (w - m.type.tag.toList.length - m.argument.toList.length) m.cleaned := by
  have hagain {n : Method} {description : List String} (hn : n = { m with description }) :
      n.rewrap w = { m with description := describe w m.type m.argument n.cleaned } := by
    subst hn
    exact rewrap_eq w _
  rw [hagain (rewrap_eq v m), rewrap_eq w m]
  simp only [Method.mk.injEq, true_and, and_true]
  unfold describe fillDescription
  exact List.map_inj_right fun _ _ h => String.ofList_injective h

/-- The comment after the first filling is that of its words with spaces between them. -/
theorem toList_joined_rewrap (h : ∀ word ∈ wordsOf m.joined, word.toList.length ≤ m.lineWidth v) :
    (m.rewrap v).joined.toList = [' '].intercalate (words m.cleaned) := by
  have hjoined : ∀ word ∈ words m.joined.toList, word.length ≤ m.lineWidth v := by
    intro word hword
    have := h (String.ofList word) (List.mem_map_of_mem hword)
    rwa [String.toList_ofList] at this
  have hcleaned : ∀ word ∈ words m.cleaned, word.length ≤ m.lineWidth v := by
    intro word hword
    rw [cleaned, cleanDescription, words_trim, List.flatten_singleton] at hword
    exact length_le_of_mem_collapse hjoined word hword
  rw [toList_joined, rewrap_eq]
  show [' '].intercalate (((fill _ m.cleaned).map String.ofList).map String.toList) = _
  rw [List.map_map, show String.toList ∘ String.ofList = id from funext fun _ => String.toList_ofList, List.map_id]
  exact intercalate_fill hcleaned

theorem words_joined_rewrap (h : ∀ word ∈ wordsOf m.joined, word.toList.length ≤ m.lineWidth v) :
    words (m.rewrap v).joined.toList = words m.cleaned := by
  rw [toList_joined_rewrap h]
  exact words_intercalate fun _ => mem_words

/-- There is a note in the comment after the first filling just if one was left in the cleaned comment. -/
theorem hasNote_joined_iff (h : ∀ word ∈ wordsOf m.joined, word.toList.length ≤ m.lineWidth v) :
    HasNote (m.rewrap v).joined.toList ↔ HasNote m.cleaned := by
  have hwords := words_joined_rewrap h
  rw [toList_joined_rewrap h] at hwords ⊢
  constructor
  · exact hasNote_of_words_eq (isBlank_getLast_intercalate fun _ => mem_words)
      (newline_not_mem_cleanDescription _) hwords
  · exact hasNote_of_words_eq (trimmed_trim _).2
      (newline_not_mem_intercalate fun _ hword => (mem_words hword).1) hwords.symm

/-- The width of the first filling is forgotten just if no note is left in the cleaned comment. -/
theorem rewrap_rewrap_iff (h : ∀ word ∈ wordsOf m.joined, word.toList.length ≤ m.lineWidth v) :
    (m.rewrap v).rewrap w = m.rewrap w ↔ ¬HasNote m.cleaned := by
  have hcleaned : (m.rewrap v).cleaned = trim (collapse (m.rewrap v).joined.toList) := by
    rw [cleaned, cleanDescription, List.flatten_singleton]
  rw [rewrap_rewrap_eq_iff]
  constructor
  · intro hfill hnote
    -- The note that is dropped the second time has characters that are no white space.
    have hless := (length_ink_collapse _).2 ((hasNote_joined_iff h).mpr hnote)
    have hink := congrArg (fun ls => ink (List.flatten ls)) hfill
    rw [ink_fill, ink_fill, hcleaned, trim, ink_trimEnd, ink_trimStart] at hink
    rw [hink, ← flatten_words, ← flatten_words, words_joined_rewrap h] at hless
    exact Nat.lt_irrefl _ hless
  · intro hnote
    refine fill_congr _ ?_
    rw [hcleaned, words_trim, words_collapse (mt (hasNote_joined_iff h).mp hnote), words_joined_rewrap h]

end Method

/-! ### Comments of a class -/

namespace ClassSpec
open Text Naming

variable {s : ClassSpec} {v w : Nat}

/-- The class without the comments of its accessors. -/
def uncommented (s : ClassSpec) : ClassSpec := { s with methods := s.methods.map Method.uncommented }

theorem uncommented_rewrap_class (width : Nat) (s : ClassSpec) : (s.rewrap width).uncommented = s.uncommented := by
  unfold uncommented rewrap
  congr 1
  rw [List.map_map]
  exact List.map_congr_left fun m _ => Method.uncommented_rewrap width m

/-- Comments whose words fit into lines of one width are put into lines of another one as if this had been done at
once, unless a line of a comment ends with the opening of a note; and if one does, just if no note is left in the
cleaned comment. Nothing else about the class changes. -/
theorem rewrap_rewrap
    (h : ∀ m ∈ s.methods, ∀ word ∈ wordsOf m.joined, word.toList.length ≤ m.lineWidth v) :
    ((∀ m ∈ s.methods, ¬noteOpening ++ ['\n'] <:+: m.joined.toList) →
      (s.rewrap v).rewrap w = s.rewrap w) ∧
    ((s.rewrap v).rewrap w = s.rewrap w ↔ ∀ m ∈ s.methods, ¬HasNote m.cleaned) ∧
    ((s.rewrap v).rewrap w).uncommented = s.uncommented := by
  have hlaw : (s.rewrap v).rewrap w = s.rewrap w ↔ ∀ m ∈ s.methods, ¬HasNote m.cleaned := by
    have hmethods : (s.rewrap v).rewrap w = s.rewrap w ↔
        ∀ m ∈ s.methods, (m.rewrap v).rewrap w = m.rewrap w := by
      unfold rewrap
      simp only [ClassSpec.mk.injEq, true_and, and_true, List.map_map]
      exact List.map_inj_left
    rw [hmethods]
    exact forall₂_congr fun m hm => Method.rewrap_rewrap_iff (h m hm)
  refine ⟨fun hlines => hlaw.mpr fun m hm hnote => hlines m hm ?_, hlaw, ?_⟩
  · have hinside := opening_of_hasNote_cleanDescription hnote
    rwa [List.flatten_singleton] at hinside
  · rw [uncommented_rewrap_class, uncommented_rewrap_class]

/-- A class with one pair of accessors and a comment on them. -/
def commented (description : List String) : ClassSpec :=
  { blank "Note" .struct with
    methods := [⟨"TEXT", "text", .scalar .string, "Text", description, none, "text"⟩] }

/-- A comment that goes through narrow lines, with a note and white space that are left out. -/
theorem rewrap_rewrap_narrow :
    ((commented ["one two  three", "four five\tsix [@TODO seven"]).rewrap 20).methods.map (·.description) =
      [["one two", "three four", "five six"]] ∧
    ((commented ["one two  three", "four five\tsix [@TODO seven"]).rewrap 20).rewrap 102 =
      (commented ["one two  three", "four five\tsix [@TODO seven"]).rewrap 102 ∧
    ((commented ["one two  three", "four five\tsix [@TODO seven"]).rewrap 102).methods.map (·.description) =
      [["one two three four five six"]] := by
  refine ⟨by decide +kernel, (rewrap_rewrap (v := 20) ?_).1 ?_, by decide +kernel⟩
  · decide +kernel
  · decide +kernel

/-- A comment with a note that is broken behind its opening: the note and what stands behind it are there after one
filling, and lost after two. -/
theorem rewrap_loses_text :
    (∀ m ∈ (commented ["a [@TODO\nfix] b"]).methods, ∀ word ∈ wordsOf m.joined, word.toList.length ≤ m.lineWidth 102) ∧
    ((commented ["a [@TODO\nfix] b"]).rewrap 102).methods.map (·.description) = [["a [@TODO fix] b"]] ∧
    (((commented ["a [@TODO\nfix] b"]).rewrap 102).rewrap 102).methods.map (·.description) = [["a"]] ∧
    ((commented ["a [@TODO\nfix] b"]).rewrap 102).rewrap 102 ≠ (commented ["a [@TODO\nfix] b"]).rewrap 102 := by
  refine ⟨by decide +kernel, by decide +kernel, by decide +kernel, by decide +kernel⟩

end ClassSpec
end ClassScribe
