import ClassScribe.Toml.Statement

/-! # TOML values

Strings, words, lists, which may go on over several lines, and tables in braces, which may not. -/

namespace ClassScribe.Toml

/-- Reads a word. -/
def readWord? (s : List Char) : Option (Setting × Shorter s) :=
  let word := wordAt s
  if h : word ≠ [] ∧ s ≠ [] then
    (ofWord? word).map fun v => (v, ⟨s.drop word.length, by
      have := List.length_pos_iff.2 h.1
      have := List.length_pos_iff.2 h.2
      simp
      omega⟩)
  else none

/-- What follows the equals sign after a key. -/
def dropEquals? (s : List Char) : Option (Shorter s) :=
  match h : skipGaps s with
  | '=' :: rest => some ⟨skipGaps rest, by
      have h1 := skipGaps_length_le s
      have h2 := skipGaps_length_le rest
      rw [h, List.length_cons] at h1
      omega⟩
  | _ => none

/-- The table of keys with values between braces. -/
def inlineTable? (pairs : List (List String × String × Setting)) : Option Setting :=
  (pairs.foldlM (fun t (path, key, value) => Item.addPair? path key value t) Item.empty).map
    Item.toSetting

mutual
/-- Reads a value. -/
def readValue? (s : List Char) : Option (Setting × Shorter s) :=
  match s with
  | [] => none
  | '[' :: rest => do
    let (items, r) ← readItems? rest
    pure (.list items, Shorter.cons '[' r)
  | '\x7b' :: rest =>
    match hg : skipGaps rest with
    | '\x7d' :: r => some (.table [], ⟨r, by
        have h1 := skipGaps_length_le rest
        rw [hg, List.length_cons] at h1
        simp
        omega⟩)
    | _ => do
      let (pairs, ⟨r, h⟩) ← readPairs? rest
      pure (← inlineTable? pairs, ⟨r, by simp; omega⟩)
  | c :: rest =>
    if c = '"' ∨ c = '\'' then
      match h : readString? (c :: rest) with
      | none => none
      | some (t, r) => some (.text (String.ofList t), ⟨r, readString?_length h⟩)
    else readWord? (c :: rest)
termination_by (s.length, 0)
decreasing_by all_goals simp [Prod.lex_def]
/-- Reads the items of a list behind its bracket. -/
def readItems? (s : List Char) : Option (List Setting × Shorter s) :=
  match hf : skipFiller? s with
  | none | some [] => none
  | some (']' :: rest) => some ([], ⟨rest, skipFiller?_length_le hf⟩)
  | some (c :: rest) => do
    have ht : (c :: rest).length ≤ s.length := skipFiller?_length_le hf
    let (v, ⟨r, h⟩) ← readValue? (c :: rest)
    match hr : skipFiller? r with
    | some (',' :: r2) =>
      have h2 : r2.length < r.length := skipFiller?_length_le hr
      let (items, ⟨r3, h3⟩) ← readItems? r2
      pure (v :: items, ⟨r3, by omega⟩)
    | some (']' :: r2) =>
      have h2 : r2.length < r.length := skipFiller?_length_le hr
      pure ([v], ⟨r2, by omega⟩)
    | _ => none
termination_by (s.length, 1)
decreasing_by all_goals (simp only [Prod.lex_def]; omega)
/-- Reads the pairs of a table in braces, up to the closing one. -/
def readPairs? (s : List Char) : Option (List (List String × String × Setting) × Shorter s) := do
  have hs := skipGaps_length_le s
  let (path, key, ⟨r, h⟩) ← readKey? (skipGaps s)
  let ⟨r2, h2⟩ ← dropEquals? r
  let (v, ⟨r3, h3⟩) ← readValue? r2
  have hg := skipGaps_length_le r3
  match hr : skipGaps r3 with
  | ',' :: r4 =>
    have h4 : r4.length < r3.length := by rw [hr] at hg; exact hg
    let (pairs, ⟨r5, h5⟩) ← readPairs? r4
    pure ((path, key, v) :: pairs, ⟨r5, by omega⟩)
  | '\x7d' :: r4 =>
    have h4 : r4.length < r3.length := by rw [hr] at hg; exact hg
    pure ([(path, key, v)], ⟨r4, by omega⟩)
  | _ => none
termination_by (s.length, 1)
decreasing_by all_goals (simp only [Prod.lex_def]; omega)
end

end ClassScribe.Toml
