import ClassScribe.Expr.Pattern
import ClassScribe.Proofs.Expr.Evaluation
import ClassScribe.Proofs.Outcome

/-! # Filling patterns

The filter `format` puts the texts of its arguments, as they are, at the places of a pattern, if there are as
many of them as places (`substitute_source`), and what it accepts is written like a pattern
(`exists_pattern`). -/

namespace ClassScribe.Filter

open Pattern

/-- The texts that values are printed as. -/
abbrev Printed (args : List Value) (shown : List String) : Prop :=
  List.Forall₂ (fun a t => a.display? = some t) args shown

variable {c : Char} {s rest r : List Char} {args : List Value} {shown : List String}

/-! ### Texts -/

theorem substitute_cons_of_ne (hc : c ≠ '%') (rest : List Char) (args : List Value) :
    substitute (c :: rest) args = (substitute rest args).map (c :: ·) := by
  simp [substitute, hc]

/-- A text with its percent signs doubled is put back as it was. -/
theorem substitute_doubled (s rest : List Char) (args : List Value) :
    substitute (doubled s ++ rest) args = (substitute rest args).map (s ++ ·) := by
  induction s with
  | nil =>
      show substitute rest args = _
      cases substitute rest args <;> rfl
  | cons c s ih =>
      have hmap : (substitute rest args).map (c :: s ++ ·) =
          ((substitute rest args).map (s ++ ·)).map (c :: ·) := by
        cases substitute rest args <;> rfl
      rw [hmap, ← ih]
      by_cases hc : c = '%'
      · subst hc
        show substitute ('%' :: '%' :: (doubled s ++ rest)) args = _
        rw [substitute]
      · have hcons : doubled (c :: s) = c :: doubled s := by
          simp [doubled, hc]
        rw [hcons, List.cons_append, substitute_cons_of_ne hc]

/-! ### Places -/

/-- What the arguments are printed as is put between the texts behind the places, if there are as many. -/
theorem substitute_places (h : Printed args shown) (more : List String) :
    substitute (more.flatMap behindPlace) args =
      if shown.length < more.length then .error .tooFew
      else if more.length < shown.length then .error .tooMany
      else .ok (List.zipWith (fun s text => s.toList ++ text.toList) shown more).flatten := by
  induction h generalizing more with
  | nil =>
      cases more with
      | nil => rfl
      | cons text more => rfl
  | @cons arg t args shown harg _ ih =>
      cases more with
      | nil => rfl
      | cons text more =>
          have hplace : substitute ((text :: more).flatMap behindPlace) (arg :: args) =
              (substitute (doubled text.toList ++ more.flatMap behindPlace) args).map (t.toList ++ ·) := by
            show substitute ('%' :: 's' :: (doubled text.toList ++ more.flatMap behindPlace)) _ = _
            rw [substitute, harg]
          rw [hplace, substitute_doubled, ih]
          simp only [List.length_cons, Nat.add_lt_add_iff_right]
          split
          · rfl
          · split
            · rfl
            · simp [Except.map]

/-- The filter on the source of a pattern, with arguments that can be printed. -/
theorem substitute_source (p : Pattern) (h : Printed args shown) :
    substitute p.source.toList args =
      if shown.length < p.more.length then .error .tooFew
      else if p.more.length < shown.length then .error .tooMany
      else .ok (p.fill shown).toList := by
  unfold source fill
  rw [String.toList_ofList, String.toList_ofList, substitute_doubled, substitute_places h]
  split
  · rfl
  · split
    · rfl
    · rfl

/-! ### What is accepted -/

/-- What is accepted is the source of a pattern, with as many printable arguments as places. -/
theorem exists_pattern (h : substitute s args = .ok r) :
    ∃ (p : Pattern) (shown : List String), s = p.source.toList ∧
      Printed args shown ∧ shown.length = p.more.length := by
  fun_induction substitute s args generalizing r with
  | case1 => exact ⟨⟨"", []⟩, [], rfl, .nil, rfl⟩
  | case2 => cases h
  | case3 args rest ih =>
      obtain ⟨u, hu, -⟩ := map_eq_ok.mp h
      obtain ⟨p, shown, hs, hshown, hlength⟩ := ih hu
      refine ⟨⟨String.ofList ('%' :: p.first.toList), p.more⟩, shown, ?_, hshown, hlength⟩
      rw [hs, source, source, String.toList_ofList, String.toList_ofList, String.toList_ofList]
      rfl
  | case4 => cases h
  | case5 rest arg args text htext ih =>
      obtain ⟨u, hu, -⟩ := map_eq_ok.mp h
      obtain ⟨p, shown, hs, hshown, hlength⟩ := ih hu
      refine ⟨⟨"", p.first :: p.more⟩, text :: shown, ?_, .cons htext hshown, congrArg (· + 1) hlength⟩
      rw [hs, source, source, String.toList_ofList, String.toList_ofList]
      rfl
  | case6 => cases h
  | case7 => cases h
  | case8 => cases h
  | case9 c rest args hdouble hplace hempty hother hlast ih =>
      obtain ⟨u, hu, -⟩ := map_eq_ok.mp h
      obtain ⟨p, shown, hs, hshown, hlength⟩ := ih hu
      have hc : c ≠ '%' := by
        intro hc
        cases rest with
        | nil => exact hlast hc rfl
        | cons d rest => exact hother d rest hc rfl
      refine ⟨⟨String.ofList (c :: p.first.toList), p.more⟩, shown, ?_, hshown, hlength⟩
      rw [hs, source, source, String.toList_ofList, String.toList_ofList, String.toList_ofList]
      simp [doubled, hc]

/-! ### The filter -/

/-- With arguments that can be printed, `format` makes of the source of a pattern the texts of the pattern
with the printed arguments between them, as they are, if there is one for each place, and fails with an
invalid argument if not; and it succeeds on sources of patterns only. -/
theorem format_fills :
    (∀ (p : Pattern) (args : List Value) (shown : List String), Printed args shown →
      applyName "format" (.text p.source) args =
        if shown.length < p.more.length then .error (.error (.invalidArgument .format .tooFew))
        else if p.more.length < shown.length then .error (.error (.invalidArgument .format .tooMany))
        else .ok (.text (p.fill shown))) ∧
    ∀ (input : Value) (args : List Value) (v : Value), applyName "format" input args = .ok v →
      ∃ (p : Pattern) (shown : List String), input = .text p.source ∧ Printed args shown ∧
        shown.length = p.more.length ∧ v = .text (p.fill shown) := by
  constructor
  · intro p args shown hargs
    rw [Expr.applyName_format_eq]
    dsimp only [apply, formatText]
    rw [substitute_source p hargs]
    by_cases hfew : shown.length < p.more.length
    · rw [if_pos hfew, if_pos hfew]
      rfl
    · by_cases hmany : p.more.length < shown.length
      · rw [if_neg hfew, if_neg hfew, if_pos hmany, if_pos hmany]
        rfl
      · rw [if_neg hfew, if_neg hfew, if_neg hmany, if_neg hmany]
        simp
  · intro input args v h
    rw [Expr.applyName_format_eq] at h
    cases input with
    | text pattern =>
        dsimp only [apply, formatText] at h
        cases hs : substitute pattern.toList args with
        | error fault =>
            rw [hs] at h
            cases h
        | ok s =>
            obtain ⟨p, shown, hpattern, hargs, hlength⟩ := exists_pattern hs
            have hfill := substitute_source p hargs
            rw [if_neg (by omega), if_neg (by omega), ← hpattern, hs] at hfill
            rw [hs] at h
            cases h
            refine ⟨p, shown, congrArg Value.text (String.toList_inj.mp hpattern), hargs, hlength, ?_⟩
            rw [Except.ok.inj hfill, String.ofList_toList]
    | none => cases h
    | bool b => cases h
    | number n => cases h
    | sequence items => cases h
    | mapping fields => cases h

/-- Percent signs around places and in arguments. -/
theorem format_fills_percent :
    Printed [.text "%s", .number (.int 7)] ["%s", "7"] ∧
      applyName "format" (.text "100%% %s%%s: %s") [.text "%s", .number (.int 7)] =
        .ok (.text "100% %s%s: 7") := by
  have hargs : Printed [.text "%s", .number (.int 7)] ["%s", "7"] := .cons rfl (.cons rfl .nil)
  exact ⟨hargs, format_fills.1 ⟨"100% ", ["%s: ", ""]⟩ _ _ hargs⟩

end ClassScribe.Filter
