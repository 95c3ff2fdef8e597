import ClassScribe.Toml.Item
import ClassScribe.Toml.Scalar
import ClassScribe.Toml.Text

/-! # TOML statements

A TOML text as its lines of meaning: keys with values, and the headers of tables and of elements of
lists of tables. -/

namespace ClassScribe.Toml

/-- A line with a meaning. The last name of a key or a header stands for itself. -/
inductive Statement
  | pair (path : List String) (key : String) (value : Setting)
  | table (path : List String) (key : String)
  | element (path : List String) (key : String)

/-! ### Between the parts -/

/-- A rest that is shorter. -/
abbrev Shorter (s : List Char) := { r : List Char // r.length < s.length }

/-- A shorter rest is also shorter than the text with one more character before it. -/
def Shorter.cons (c : Char) {s : List Char} (r : Shorter s) : Shorter (c :: s) :=
  ⟨r.1, Nat.lt_succ_of_lt r.2⟩

/-- What follows white space. -/
def skipGaps (s : List Char) : List Char := s.dropWhile isGap

theorem skipGaps_length_le (s : List Char) : (skipGaps s).length ≤ s.length :=
  (List.dropWhile_suffix isGap).length_le

/-- What follows the printable characters at the start. -/
def skipPrintable (s : List Char) : List Char := s.dropWhile isPrintable

theorem skipPrintable_length_le (s : List Char) : (skipPrintable s).length ≤ s.length :=
  (List.dropWhile_suffix isPrintable).length_le

/-- What follows a comment, if one starts here; it may only hold printable characters. -/
def skipComment? (s : List Char) : Option (List Char) :=
  match s with
  | '#' :: rest =>
    let rest := skipPrintable rest
    if rest.isEmpty || (dropNewline? rest).isSome then some rest else none
  | s => some s

/-- What follows the end of a line, with white space and a comment before it. -/
def endLine? (s : List Char) : Option (List Char) := do
  let rest ← skipComment? (skipGaps s)
  if rest.isEmpty then some [] else dropNewline? rest

theorem endLine?_length_le {s r : List Char} (h : endLine? s = some r) :
    r.length ≤ s.length := by
  simp only [endLine?, Option.bind_eq_bind, Option.bind_eq_some_iff] at h
  obtain ⟨t, ht, h⟩ := h
  have h1 : t.length ≤ s.length := by
    refine Nat.le_trans ?_ (skipGaps_length_le s)
    unfold skipComment? at ht
    split at ht
    · rename_i rest hs
      have := skipPrintable_length_le rest
      dsimp only at ht
      split at ht
      · have := congrArg List.length (Option.some.inj ht)
        simp only [hs, List.length_cons]
        omega
      · simp at ht
    · exact Option.some.inj ht ▸ Nat.le_refl _
  split at h
  · simp [← Option.some.inj h]
  · have := dropNewline?_length h
    omega

/-- What follows white space, comments and ends of lines. -/
def skipFiller? (s : List Char) : Option (List Char) :=
  match s with
  | [] => some []
  | '#' :: rest =>
    match _h : dropNewline? (skipPrintable rest) with
    | some r => skipFiller? r
    | none => if (skipPrintable rest).isEmpty then some [] else none
  | c :: rest =>
    match _h : dropNewline? (c :: rest) with
    | some r => skipFiller? r
    | none => if isGap c then skipFiller? rest else some (c :: rest)
termination_by s.length
decreasing_by
  · have := dropNewline?_length _h
    have := skipPrintable_length_le rest
    simp
    omega
  · exact dropNewline?_length _h
  · simp

theorem skipFiller?_length_le {s r : List Char} (h : skipFiller? s = some r) :
    r.length ≤ s.length := by
  fun_induction skipFiller? s generalizing r with
  | case1 => simp at h; simp [h]
  | case2 rest r1 h1 ih =>
    have := ih h
    have := dropNewline?_length h1
    have := skipPrintable_length_le rest
    simp
    omega
  | case3 => simp at h; simp [h]
  | case4 => simp at h
  | case5 c rest _ r1 h1 ih =>
    have := ih h
    have := dropNewline?_length h1
    omega
  | case6 c rest _ _ _ ih =>
    have := ih h
    simp
    omega
  | case7 => simp at h; simp [← h]

/-! ### Keys -/

/-- A character of a key without quotes. -/
def isBare (c : Char) : Bool := c.isAlphanum || c == '_' || c == '-'

/-- Reads one name of a key. -/
def readName? (s : List Char) : Option (String × Shorter s) :=
  match _h : s with
  | [] => none
  | c :: rest =>
    if c = '"' ∨ c = '\'' then
      match _ht : readText (c == '"') false rest with
      | none => none
      | some (t, r) =>
        some (String.ofList t, ⟨r, by have := readText_length_le _ht; simp; omega⟩)
    else if isBare c then
      some (String.ofList (c :: rest.takeWhile isBare), ⟨rest.dropWhile isBare, by
        have := (List.dropWhile_suffix (l := rest) isBare).length_le
        simp
        omega⟩)
    else none

/-- Reads a key: names with dots between them. The last name stands apart. -/
def readKey? (s : List Char) : Option (List String × String × Shorter s) :=
  match readName? s with
  | none => none
  | some (name, ⟨r, hr⟩) =>
    match hd : skipGaps r with
    | '.' :: rest =>
      have hlt : (skipGaps rest).length < s.length := by
        have h1 := skipGaps_length_le r
        have h2 := skipGaps_length_le rest
        rw [hd, List.length_cons] at h1
        omega
      match readKey? (skipGaps rest) with
      | none => none
      | some (path, key, ⟨r2, h2⟩) => some (name :: path, key, ⟨r2, Nat.lt_trans h2 hlt⟩)
    | _ => some ([], name, ⟨r, hr⟩)
termination_by s.length
decreasing_by exact hlt

end ClassScribe.Toml
