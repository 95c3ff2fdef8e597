import Mathlib.Tactic.Common
import ClassScribe.Proofs.Text.Splitting
import ClassScribe.Text.LetterCase

/-! # The case of ASCII texts

On ASCII texts the tables of letters and of their forms do not matter: the small and the capital form of a text
are taken character by character (`lower_of_ascii`, `upper_of_ascii`), and there are only 128 characters to be
looked at (`of_ascii`). -/

namespace ClassScribe.Text

variable {s t : List Char} {c : Char}

/-- A text of ASCII characters. -/
def IsAscii (s : List Char) : Prop := ∀ c ∈ s, c.toNat < 128

theorem of_ascii {P : Char → Prop} (h : ∀ n < 128, P (Char.ofNat n)) (hc : c.toNat < 128) : P c := by
  have hp := h c.toNat hc
  rwa [Char.ofNat_toNat] at hp

/-! ### Characters -/

theorem lt_of_isIdentPart (h : isIdentPart c = true) : c.toNat < 128 := by
  have := toNat_of_isIdentPart h
  omega

theorem inRanges_of_ascii {ranges : List CharRange} (h : ranges.all (128 ≤ ·.1) = true)
    (hc : c.toNat < 128) : inRanges ranges c = false := by
  rw [← Bool.not_eq_true, inRanges_iff]
  rintro ⟨r, hr, hfirst, -⟩
  have := of_decide_eq_true (List.all_eq_true.mp h r hr)
  omega

theorem isDecimalDigit_of_ascii (hc : c.toNat < 128) : isDecimalDigit c = c.isDigit := by
  have hbehind : inRanges decimalDigits.tail c = false := inRanges_of_ascii (by decide) hc
  have hfirst : isDecimalDigit c = (decide (48 ≤ c.toNat) && decide (c.toNat ≤ 57) ||
    inRanges decimalDigits.tail c) := rfl
  rw [hfirst, hbehind, Bool.or_false]
  rfl

theorem isWordlike_of_isIdentPart (h : isIdentPart c = true) : isWordlike c = true := by
  have hnew : inRanges newLetters c = false := inRanges_of_ascii (by decide) (lt_of_isIdentPart h)
  rw [isWordlike, hnew, Bool.not_false, Bool.and_true]
  simp only [Bool.or_eq_true, inRanges_iff]
  rcases toNat_of_isIdentPart h with hdigit | hcapital | hsmall | hmark
  · exact .inl (.inr ⟨_, List.mem_cons_self, hdigit⟩)
  · exact .inl (.inl ⟨_, List.mem_cons_self, hcapital⟩)
  · exact .inl (.inl ⟨_, List.mem_cons_of_mem _ List.mem_cons_self, hsmall⟩)
  · exact .inr ⟨_, List.mem_cons_self, Nat.le_of_eq hmark.symm, Nat.le_of_eq hmark⟩

theorem isSmall_spec (h : isSmall c = true) :
    c.toNat < 128 ∧ isCapital c = false ∧ c.isDigit = false ∧ c ≠ '_' := by
  have hc : c.toNat < 128 := by
    simp only [isSmall, Bool.and_eq_true, decide_eq_true_eq] at h
    have : c.toNat ≤ 122 := h.2
    omega
  refine ⟨hc, ?_⟩
  refine of_ascii (P := fun c => isSmall c = true →
    isCapital c = false ∧ c.isDigit = false ∧ c ≠ '_') ?_ hc h
  decide

theorem isSmall_of_isCapital (h : isCapital c = true) : isSmall c = false := by
  rw [← Bool.not_eq_true]
  intro hsmall
  rw [(isSmall_spec hsmall).2.1] at h
  cases h

theorem isCapital_toLower (hc : c.toNat < 128) : isCapital c.toLower = false := by
  refine of_ascii (P := fun c => isCapital c.toLower = false) ?_ hc
  decide

theorem toLower_of_not_isCapital (hc : c.toNat < 128) (h : isCapital c = false) : c.toLower = c := by
  refine of_ascii (P := fun c => isCapital c = false → c.toLower = c) ?_ hc h
  decide

theorem toUpper_of_not_isSmall (hc : c.toNat < 128) (h : isSmall c = false) : c.toUpper = c := by
  refine of_ascii (P := fun c => isSmall c = false → c.toUpper = c) ?_ hc h
  decide

theorem lt_toLower (hc : c.toNat < 128) : c.toLower.toNat < 128 := by
  refine of_ascii (P := fun c => c.toLower.toNat < 128) ?_ hc
  decide

theorem lt_toUpper (hc : c.toNat < 128) : c.toUpper.toNat < 128 := by
  refine of_ascii (P := fun c => c.toUpper.toNat < 128) ?_ hc
  decide

/-! ### Texts -/

theorem isAscii_of_isIdentPart (h : ∀ c ∈ s, isIdentPart c = true) : IsAscii s := fun c hc =>
  lt_of_isIdentPart (h c hc)

theorem IsAscii.suffix (h : IsAscii s) (ht : t <:+ s) : IsAscii t := fun c hc => h c (ht.mem hc)

theorem isAscii_map {f : Char → Char} (hf : ∀ {c : Char}, c.toNat < 128 → (f c).toNat < 128)
    (h : IsAscii s) : IsAscii (s.map f) := fun c hc => by
  obtain ⟨d, hd, rfl⟩ := List.mem_map.mp hc
  exact hf (h d hd)

theorem lower_of_ascii (h : IsAscii s) : lower s = s.map Char.toLower := by
  suffices hall : ∀ before, lowerFrom before s = s.map Char.toLower from hall []
  intro before
  induction s generalizing before with
  | nil => rfl
  | cons c s ih =>
      obtain ⟨hc, hs⟩ := List.forall_mem_cons.mp h
      have hsigma : c ≠ 'Σ' := by
        rintro rfl
        exact absurd hc (by decide)
      rw [lowerFrom, if_neg hsigma, lowerChar, if_pos hc, ih hs]
      rfl

theorem upper_of_ascii (h : IsAscii s) : upper s = s.map Char.toUpper := by
  unfold upper
  induction s with
  | nil => rfl
  | cons c s ih =>
      obtain ⟨hc, hs⟩ := List.forall_mem_cons.mp h
      rw [List.flatMap_cons, upperChar, if_pos hc, ih hs]
      rfl

theorem lower_of_no_capital (h : IsAscii s) (hs : ∀ c ∈ s, isCapital c = false) : lower s = s := by
  rw [lower_of_ascii h]
  exact (List.map_congr_left fun c hc => toLower_of_not_isCapital (h c hc) (hs c hc)).trans (List.map_id s)

theorem upper_of_no_small (h : IsAscii s) (hs : ∀ c ∈ s, isSmall c = false) : upper s = s := by
  rw [upper_of_ascii h]
  exact (List.map_congr_left fun c hc => toUpper_of_not_isSmall (h c hc) (hs c hc)).trans (List.map_id s)

end ClassScribe.Text
