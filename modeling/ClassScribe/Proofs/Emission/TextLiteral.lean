import Mathlib.Tactic.Common
import ClassScribe.Emission.TextLiteral
import ClassScribe.Schema.ParamValue

/-! # The literals of text values

The literal of a text ends with its last quote, and its signs stand for the characters of the text, whatever these
are. It is well formed just if the text is on one line (`literal_text`): the ends of lines go into the literal as they
are. -/

namespace ClassScribe.TextLiteral
open ParamValue

variable {c : Char} {s : List Char}

/-- The sign that a character is written as. -/
def signOf (c : Char) : Sign := if c = '\\' ∨ c = '\'' then .escaped c else .plain c

theorem signs?_quotedChar (c : Char) (rest : List Char) :
    signs? (quotedChar c ++ rest) = (signs? rest).map (signOf c :: ·) := by
  by_cases hslash : c = '\\'
  · subst hslash
    rfl
  by_cases hquote : c = '\''
  · subst hquote
    rfl
  · have hplain : quotedChar c = [c] := by rw [quotedChar, if_neg hslash, if_neg hquote]
    have hsign : signOf c = .plain c := if_neg (by simp [hslash, hquote])
    rw [hplain, hsign, List.singleton_append, signs?]
    · rintro rfl
      exact absurd rfl hslash
    · intro d r h
      exact absurd h hslash

theorem signs?_quoted (s : List Char) : signs? (s.flatMap quotedChar) = some (s.map signOf) := by
  induction s with
  | nil => rfl
  | cons c s ih =>
      rw [List.flatMap_cons, signs?_quotedChar, ih]
      rfl

theorem signOf_ne_quote (c : Char) : signOf c ≠ .plain '\'' := by
  unfold signOf
  split
  · nofun
  · next h =>
      intro heq
      exact h (.inr (Sign.plain.inj heq))

theorem value?_signOf (c : Char) : (signOf c).value? = some c := by
  unfold signOf
  split
  · next h =>
      rcases h with rfl | rfl <;> rfl
  · rfl

theorem hasSigns_quote (s : List Char) : HasSigns (quote s) (s.map signOf) where
  quoted := ⟨s.flatMap quotedChar, quote_eq_flatMap s, signs?_quoted s⟩
  closed hmem := by
    obtain ⟨c, -, hc⟩ := List.mem_map.mp hmem
    exact signOf_ne_quote c hc

/-- Quotes and backslashes end no line, and nothing else is added to a text. -/
theorem oneLine_quote_iff : OneLine (quote s) ↔ OneLine s := by
  have hchar (c : Char) : OneLine (quotedChar c) ↔ endsLine c = false := by
    unfold quotedChar
    split
    · next h =>
        subst h
        decide
    · split
      · next h =>
          subst h
          decide
      · exact List.forall_mem_singleton
  have hquote : endsLine '\'' = false := by decide
  unfold OneLine
  rw [quote_eq_flatMap, List.cons_append, List.forall_mem_cons, List.forall_mem_append, List.forall_mem_singleton]
  simp only [hquote, true_and, and_true, List.forall_mem_flatMap]
  exact forall₂_congr fun c _ => hchar c

/-- The literal of a text ends with its last quote, and is read as the text. It is well formed just if the text is on
one line. -/
theorem literal_text (s : String) :
    (∃ signs, HasSigns (ParamValue.text s).literal.toList signs ∧
      signs.map Sign.value? = s.toList.map some) ∧
    (WellFormed (ParamValue.text s).literal.toList ↔ OneLine s.toList) := by
  have hliteral : (ParamValue.text s).literal.toList = quote s.toList := String.toList_ofList
  rw [hliteral]
  refine ⟨⟨_, hasSigns_quote s.toList, ?_⟩, fun h => oneLine_quote_iff.mp h.oneLine,
    fun h => ⟨⟨_, hasSigns_quote s.toList⟩, oneLine_quote_iff.mpr h⟩⟩
  rw [List.map_map]
  exact List.map_congr_left fun c _ => value?_signOf c

/-- The literal of a text on two lines is broken behind the first one. -/
theorem literal_two_lines :
    (ParamValue.text "a\nb").literal = "'a\nb'" ∧ ¬WellFormed (ParamValue.text "a\nb").literal.toList := by
  have hliteral : (ParamValue.text "a\nb").literal = "'a\nb'" := by decide
  refine ⟨hliteral, fun h => ?_⟩
  have hline := h.oneLine '\n' (by rw [hliteral]; decide)
  exact absurd hline (by decide)

end ClassScribe.TextLiteral
