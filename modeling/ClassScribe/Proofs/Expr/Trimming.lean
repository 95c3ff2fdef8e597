import Mathlib.Data.List.Induction
import ClassScribe.Proofs.Expr.Spelling
import ClassScribe.Proofs.Text.Splitting

/-! # White space around expressions

A text that spells tokens still spells them without the white space at its ends (`Spells.trim`): tokens
start and end with other characters, and no token runs on into what has been taken off. -/

namespace ClassScribe
namespace Token

variable {t : Token} {ts : List Token} {s u r : List Char}

/-- Names and numbers are made up of the characters of identifiers; the other tokens are strings and
symbols. -/
theorem spelling_cases (ht : t.isWritable = true) :
    (t.spelling ≠ [] ∧ ∀ c ∈ t.spelling, Text.isIdentPart c = true) ∨ (∃ x, t = .text x) ∨
      ∃ x, t = .symbol x := by
  cases t with
  | name n => exact .inl ⟨Text.ne_nil_of_isIdentifier ht, fun c hc => Text.isIdentPart_of_mem ht hc⟩
  | text x => exact .inr (.inl ⟨x, rfl⟩)
  | int i =>
      refine .inl ⟨Nat.toDigits_ne_nil, fun c hc => ?_⟩
      unfold Text.isIdentPart Char.isAlphanum
      rw [isDigit_of_mem_digitsOf hc, Bool.or_true, Bool.true_or]
  | float x => cases ht
  | symbol x => exact .inr (.inr ⟨x, rfl⟩)

theorem spelling_ends (ht : t.isWritable = true) :
    (∃ c, t.spelling.head? = some c ∧ Text.isBlank c = false) ∧
      ∃ c, t.spelling.getLast? = some c ∧ Text.isBlank c = false := by
  rcases spelling_cases ht with ⟨hne, hall⟩ | ⟨x, rfl⟩ | ⟨x, rfl⟩
  · exact ⟨⟨_, List.head?_eq_some_head hne, (Text.isIdentPart_spec (hall _ (List.head_mem hne))).1⟩,
      _, List.getLast?_eq_some_getLast hne,
      (Text.isIdentPart_spec (hall _ (List.getLast_mem hne))).1⟩
  · refine ⟨⟨'"', rfl, by decide⟩, '"', ?_, by decide⟩
    show ('"' :: x.toList.flatMap escape ++ ['"']).getLast? = some '"'
    exact List.getLast?_concat
  · cases x <;> exact ⟨⟨_, rfl, by decide⟩, _, rfl, by decide⟩

theorem isBlank_of_isAsciiBlank {c : Char} (h : Text.isAsciiBlank c = true) :
    Text.isBlank c = true := by
  simp only [Text.isAsciiBlank, Bool.or_eq_true, beq_iff_eq] at h
  rcases h with (((rfl | rfl) | rfl) | rfl) | rfl <;> decide

theorem endsNumber_of_ne {c : Char} (hc : c ≠ '.') (s : List Char) :
    endsNumber (c :: s) = !c.isDigit := by
  unfold endsNumber
  split
  · next heq => exact absurd (List.cons.inj heq).1 hc
  · next heq => rw [(List.cons.inj heq).1]
  · next heq => cases heq

theorem endsNumber_of_append (h : endsNumber (u ++ r) = true) : endsNumber u = true := by
  match u with
  | [] => rfl
  | c :: u =>
      by_cases hc : c = '.'
      · subst hc
        cases u with
        | nil => decide
        | cons d u => exact h
      · rw [List.cons_append, endsNumber_of_ne hc] at h
        rwa [endsNumber_of_ne hc]

theorem endsBefore_of_append (h : t.endsBefore (u ++ r) = true) : t.endsBefore u = true := by
  cases u with
  | nil =>
      match t with
      | .name _ | .int _ | .float _ | .text _ => rfl
      | .symbol x => cases x <;> rfl
  | cons c u =>
      match t with
      | .name _ | .float _ | .text _ => exact h
      | .int _ => exact endsNumber_of_append h
      | .symbol x => cases x <;> exact h

theorem spells_of_allBlank (hr : Text.AllBlank r) (h : Spells r ts)
    (hts : ∀ t ∈ ts, t.isWritable = true) : ts = [] := by
  induction h with
  | done => rfl
  | blank _ _ ih => exact ih (fun c hc => hr c (List.mem_cons_of_mem _ hc)) hts
  | @token t s ts _ _ _ =>
      obtain ⟨⟨c, hc, hblank⟩, -⟩ := spelling_ends (hts t List.mem_cons_self)
      have := hr c (List.mem_append_left _ (List.mem_of_head? hc))
      rw [hblank] at this
      cases this

/-- White space behind tokens does not count. -/
theorem Spells.of_append (h : Spells (u ++ r) ts) (hr : Text.AllBlank r)
    (hts : ∀ t ∈ ts, t.isWritable = true) : Spells u ts := by
  generalize hs : u ++ r = s at h
  induction h generalizing u with
  | done =>
      rw [(List.append_eq_nil_iff.mp hs).1]
      exact .done
  | @blank c s ts hc h ih =>
      cases u with
      | nil =>
          have hrest : Text.AllBlank s := fun d hd => hr d (by
            rw [show r = c :: s from hs]
            exact List.mem_cons_of_mem _ hd)
          rw [spells_of_allBlank hrest h hts]
          exact .done
      | cons d u =>
          obtain ⟨rfl, hrest⟩ := List.cons.inj hs
          exact .blank hc (ih hts hrest)
  | @token t s ts hend h ih =>
      have hts' : ∀ t ∈ ts, t.isWritable = true := fun t ht => hts t (List.mem_cons_of_mem _ ht)
      rcases List.append_eq_append_iff.mp hs with ⟨k, hk, hrk⟩ | ⟨k, rfl, hsk⟩
      · -- The end of the token would be white space.
        obtain ⟨-, c, hc, hblank⟩ := spelling_ends (hts t List.mem_cons_self)
        cases k using List.reverseRecOn with
        | nil =>
            rw [List.append_nil] at hk
            rw [← hk, ← List.append_nil t.spelling]
            exact .token (endsBefore_of_append hend) (ih hts' (by rw [hrk]; rfl))
        | append_singleton k d =>
            rw [hk, ← List.append_assoc, List.getLast?_concat] at hc
            obtain rfl := Option.some.inj hc
            have := hr d (by rw [hrk]; simp)
            rw [hblank] at this
            cases this
      · rw [hsk] at hend
        exact .token (endsBefore_of_append hend) (ih hts' hsk.symm)

theorem Spells.trimStart (h : Spells s ts) (hts : ∀ t ∈ ts, t.isWritable = true) :
    Spells (Text.trimStart s) ts := by
  induction h with
  | done => exact .done
  | blank hc _ ih =>
      rw [Text.trimStart, List.dropWhile_cons_of_pos (isBlank_of_isAsciiBlank hc)]
      exact ih hts
  | @token t s ts hend h _ =>
      obtain ⟨⟨c, hc, hblank⟩, -⟩ := spelling_ends (hts t List.mem_cons_self)
      rw [Text.trimStart_of_head]
      · exact .token hend h
      · intro d hd
        rw [List.head?_append, hc] at hd
        cases hd
        exact hblank

theorem Spells.trimEnd (h : Spells s ts) (hts : ∀ t ∈ ts, t.isWritable = true) :
    Spells (Text.trimEnd s) ts := by
  obtain ⟨r, hr, hs⟩ := Text.exists_trimEnd s
  rw [hs] at h
  exact h.of_append hr hts

/-- A text that spells tokens does so without the white space at its ends. -/
theorem Spells.trim (h : Spells s ts) (hts : ∀ t ∈ ts, t.isWritable = true) :
    Spells (Text.trim s) ts :=
  (h.trimStart hts).trimEnd hts

end Token
end ClassScribe
