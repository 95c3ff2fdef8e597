import ClassScribe.Proofs.Schema.Cleaning
import ClassScribe.Proofs.Text.Filling
import ClassScribe.Schema.ClassSpec

/-! # Words of descriptions

A description without notes keeps its words when it is cleaned (`words_collapse`) and when it is filled into
lines, if they fit there. But its lines are run together first, with nothing between them: it keeps the words of
the lines just if the lines keep their words apart (`derive_keeps_words`). -/

namespace ClassScribe

/-! ### Descriptions of accessors -/

namespace Method
open Text

variable {origin : String} {type : ValueType} {ls : List String} {external : Option String} {width : Nat}

/-- The number of characters that a line of the description of an accessor argument has room for. -/
def room (width : Nat) (type : ValueType) (origin : String) : Nat :=
  max (width - type.tag.toList.length - (Naming.argumentName origin.toList).length) 1

theorem flatMap_wordsOf_map (ls : List (List Char)) :
    (ls.map String.ofList).flatMap wordsOf = (ls.flatMap words).map String.ofList := by
  induction ls with
  | nil => rfl
  | cons l ls ih =>
      rw [List.map_cons, List.flatMap_cons, ih, List.flatMap_cons, List.map_append, wordsOf,
        String.toList_ofList]

theorem toList_join (ls : List String) : (String.join ls).toList = (ls.map String.toList).flatten := by
  rw [String.toList_join, List.flatMap_def]

/-- Lines that are run together have the words of the lines just if these keep their words apart. -/
theorem wordsOf_join_iff :
    wordsOf (String.join ls) = ls.flatMap wordsOf ↔ KeepApart (ls.map String.toList) := by
  have hlines := flatMap_wordsOf_map (ls.map String.toList)
  rw [List.map_map, show String.ofList ∘ String.toList = id from funext fun _ => String.ofList_toList,
    List.map_id] at hlines
  rw [hlines, ← words_flatten_iff, wordsOf, toList_join]
  exact List.map_inj_right fun _ _ h => String.ofList_injective h

/-- A description without notes whose words all fit on a line has the words of its lines run together. -/
theorem derive_words (hnote : ¬Naming.noteOpening <:+: (String.join ls).toList)
    (hfits : ∀ w ∈ wordsOf (String.join ls), w.toList.length ≤ room width type origin) :
    (derive origin type ls external width).description.flatMap wordsOf = wordsOf (String.join ls) := by
  rw [toList_join] at hnote
  have hclean := Naming.words_cleanDescription hnote
  rw [← toList_join] at hclean
  have hlines : ∀ w ∈ words (Naming.cleanDescription (ls.map String.toList)),
      w.length ≤ room width type origin := by
    intro w hw
    rw [hclean] at hw
    have hlength := hfits (String.ofList w) (List.mem_map_of_mem hw)
    rwa [String.toList_ofList] at hlength
  have hdescription : (derive origin type ls external width).description =
      (fill (width - type.tag.toList.length - (Naming.argumentName origin.toList).length)
        (Naming.cleanDescription (ls.map String.toList))).map String.ofList := by
    rw [derive, describe, Naming.fillDescription, String.toList_ofList]
  rw [hdescription, flatMap_wordsOf_map, flatMap_words_fill hlines, hclean, wordsOf]

/-- A description keeps the words of its lines, none of them with a note in it or a word that does not fit, if
the lines keep their words apart. If they do not, it has not these words, unless a note or a word that does not
fit comes about where they are run together. -/
theorem derive_keeps_words (hnote : ∀ l ∈ ls, ¬Naming.noteOpening <:+: l.toList)
    (hfits : ∀ l ∈ ls, ∀ w ∈ wordsOf l, w.toList.length ≤ room width type origin) :
    (KeepApart (ls.map String.toList) →
      (derive origin type ls external width).description.flatMap wordsOf = ls.flatMap wordsOf) ∧
    (¬Naming.noteOpening <:+: (String.join ls).toList →
      (∀ w ∈ wordsOf (String.join ls), w.toList.length ≤ room width type origin) →
      ((derive origin type ls external width).description.flatMap wordsOf = ls.flatMap wordsOf ↔
        KeepApart (ls.map String.toList))) := by
  constructor
  · intro hapart
    have hwords := wordsOf_join_iff.mpr hapart
    rw [derive_words ?_ ?_, hwords]
    · intro hinside
      rw [toList_join] at hinside
      obtain ⟨l, hl, hinside⟩ :=
        exists_infix_of_flatten hapart Naming.noBlank_noteOpening (by decide) hinside
      obtain ⟨l, hmem, rfl⟩ := List.mem_map.mp hl
      exact hnote l hmem hinside
    · intro w hw
      rw [hwords] at hw
      obtain ⟨l, hl, hw⟩ := List.mem_flatMap.mp hw
      exact hfits l hl w hw
  · intro hnote hfits
    rw [derive_words hnote hfits, wordsOf_join_iff]

/-- Two lines, the second of them indented, keep their words. -/
theorem derive_keeps_words_indented :
    (derive "softButtons" (.array (.named "SoftButton")) ["The  buttons", "\tof the dialog "] none
      40).description.flatMap wordsOf = ["The", "buttons", "of", "the", "dialog"] := by
  refine ((derive_keeps_words ?_ ?_).1 ?_).trans (by decide +kernel)
  · decide +kernel
  · decide +kernel
  · exact words_flatten_iff.mp (by decide +kernel)

/-- Two lines without white space at either end are glued together. -/
theorem derive_glues_lines :
    (∀ l ∈ ["one", "two"], ¬Naming.noteOpening <:+: l.toList) ∧
    (∀ l ∈ ["one", "two"], ∀ w ∈ wordsOf l, w.toList.length ≤ room 102 (.scalar .string) "text") ∧
    (derive "text" (.scalar .string) ["one", "two"] none 102).description = ["onetwo"] ∧
    (derive "text" (.scalar .string) ["one", "two"] none 102).description.flatMap wordsOf ≠
      ["one", "two"].flatMap wordsOf := by
  have hglued : (derive "text" (.scalar .string) ["one", "two"] none 102).description = ["onetwo"] := by
    decide +kernel
  refine ⟨by decide +kernel, by decide +kernel, hglued, ?_⟩
  rw [hglued]
  decide +kernel

end Method
end ClassScribe
