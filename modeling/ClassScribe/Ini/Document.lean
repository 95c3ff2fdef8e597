import ClassScribe.Number.Numeral
import ClassScribe.Settings.Setting
import ClassScribe.Text.Blank

/-! # INI documents

Sections of keys with values. All values are texts; quotes around a part of a value are dropped, and a
backslash escapes everywhere. -/

namespace ClassScribe.Ini

/-! ### Texts -/

/-- The character that a backslash makes of a character. -/
def escaped : Char → Char
  | '0' => '\x00'
  | 'a' => '\x07'
  | 'b' => '\x08'
  | 't' => '\t'
  | 'r' => '\r'
  | 'n' => '\n'
  | c => c

/-- Reads up to one of the characters `ends`, or up to the end of the text if it may end here. A
backslash before the end of a line takes one more character with it. -/
def readUntil? (ends : List Char) (mayEnd : Bool) (s : List Char) : Option (List Char × List Char) :=
  match s with
  | [] => if mayEnd then some ([], []) else none
  | c :: rest =>
    if ends.contains c then some ([], c :: rest)
    else if c = '\\' then
      match rest with
      | [] => none
      | 'x' :: rest =>
        match Numeral.value? 16 (rest.take 4) with
        | some n =>
          if (rest.take 4).length = 4 ∧ n.isValidChar then
            (readUntil? ends mayEnd (rest.drop 4)).map fun (t, r) => (Char.ofNat n :: t, r)
          else none
        | none => none
      | '\n' :: rest => readUntil? ends mayEnd (rest.drop 1)
      | e :: rest => (readUntil? ends mayEnd rest).map fun (t, r) => (escaped e :: t, r)
    else (readUntil? ends mayEnd rest).map fun (t, r) => (c :: t, r)
termination_by s.length
decreasing_by all_goals (simp only [List.length_cons, List.length_drop]; omega)

theorem readUntil?_length_le {ends : List Char} {mayEnd : Bool} {s t r : List Char}
    (h : readUntil? ends mayEnd s = some (t, r)) : r.length ≤ s.length := by
  fun_induction readUntil? ends mayEnd s generalizing t r with
  | case1 => simp at h; simp [h]
  | case2 | case4 | case6 | case7 => simp at h
  | case3 => simp at h; simp [← h.2]
  | case8 =>
    rename_i ih
    have := ih h
    simp only [List.length_drop, List.length_cons] at this ⊢
    omega
  | case5 | case9 | case10 =>
    rename_i ih
    simp only [Option.map_eq_some_iff, Prod.exists, Prod.mk.injEq] at h
    obtain ⟨_, _, h, _, rfl⟩ := h
    have := ih h
    simp only [List.length_drop, List.length_cons] at this ⊢
    omega

/-! ### Values -/

/-- A space or another blank character inside a line. -/
def isGap (c : Char) : Bool := Text.isBlank c && c ≠ '\n' && c ≠ '\r'

/-- Reads a value behind the sign after its key: quoted parts, and the rest of the line without the
blanks around it; behind a quoted part, blanks belong to the value. -/
def readParts? (first : Bool) (s : List Char) : Option (List Char × List Char) :=
  match s with
  | [] => some ([], [])
  | c :: rest =>
    if c = '"' ∨ c = '\'' then
      match _h : readUntil? [c] false rest with
      | none => none
      | some (t, r) => (readParts? false (r.drop 1)).map fun (more, r) => (t ++ more, r)
    else
      (readUntil? ['\n', '\r'] true (c :: rest)).map fun (t, r) =>
        (if first then Text.trim t else Text.trimEnd t, r)
termination_by s.length
decreasing_by
  have := readUntil?_length_le _h
  simp only [List.length_cons, List.length_drop]
  omega

theorem readParts?_length_le {first : Bool} {s t r : List Char}
    (h : readParts? first s = some (t, r)) : r.length ≤ s.length := by
  fun_induction readParts? first s generalizing t r with
  | case1 => simp at h; simp [h]
  | case2 => simp at h
  | case3 _ _ _ _ _ _ hu ih =>
    simp only [Option.map_eq_some_iff, Prod.exists, Prod.mk.injEq] at h
    obtain ⟨_, _, h, _, rfl⟩ := h
    have := ih h
    have := readUntil?_length_le hu
    simp only [List.length_drop, List.length_cons] at *
    omega
  | case4 =>
    simp only [Option.map_eq_some_iff, Prod.exists, Prod.mk.injEq] at h
    obtain ⟨_, _, h, _, rfl⟩ := h
    exact readUntil?_length_le h

/-- Reads a value. -/
def readValue? (s : List Char) : Option (List Char × List Char) :=
  readParts? true (s.dropWhile isGap)

theorem readValue?_length_le {s t r : List Char} (h : readValue? s = some (t, r)) :
    r.length ≤ s.length :=
  Nat.le_trans (readParts?_length_le h) (List.dropWhile_suffix isGap).length_le

/-! ### Statements -/

/-- The opening of a section, or a key with its value. -/
inductive Statement
  | opening (name : String)
  | pair (key value : String)
  deriving DecidableEq, Repr

/-- The text without the blanks around it. -/
def trimmed (s : List Char) : String := String.ofList (Text.trim s)

/-- The statements of a text; `fresh` tells that it stands at the start of a line, where alone a comment
may begin. -/
def statements? (fresh : Bool) (s : List Char) : Option (List Statement) :=
  match s with
  | [] => some []
  | c :: rest =>
    if Text.isBlank c then statements? (c == '\n') rest
    else if c = ';' ∨ c = '#' then
      if fresh then statements? true ((rest.dropWhile (· ≠ '\n')).drop 1) else none
    else if c = '[' then
      match _h : readUntil? [']'] false rest with
      | none => none
      | some (name, r) => (statements? false (r.drop 1)).map (.opening (trimmed name) :: ·)
    else
      match _h : readUntil? ['=', ':'] false (c :: rest) with
      | some (key, _ :: r) =>
        if (Text.trim key).isEmpty then none
        else
          match _hv : readValue? r with
          | none => none
          | some (value, r) =>
            (statements? false r).map (.pair (trimmed key) (String.ofList value) :: ·)
      | _ => none
termination_by s.length
decreasing_by
  · simp
  · have := (List.dropWhile_suffix (l := rest) (· ≠ '\n')).length_le
    simp only [List.length_cons, List.length_drop]
    omega
  · have := readUntil?_length_le _h
    simp only [List.length_cons, List.length_drop]
    omega
  · have h1 := readUntil?_length_le _h
    have h2 := readValue?_length_le _hv
    simp only [List.length_cons] at *
    omega

/-! ### The table -/

/-- A document while it is read: the pairs before the first section, the finished sections, and the
open one. -/
structure Draft where
  general : List (String × Setting)
  sections : List (String × List (String × Setting))
  current : Option (String × List (String × Setting))

namespace Draft

/-- The draft without an open section. Of two sections with one name the later one counts. -/
def close (d : Draft) : Draft :=
  match d.current with
  | none => d
  | some (name, pairs) =>
    ⟨d.general, d.sections.filter (·.1 != name) ++ [(name, pairs)], none⟩

/-- The draft with a further statement. -/
def add (d : Draft) : Statement → Draft
  | .opening name => { d.close with current := some (name, []) }
  | .pair key value =>
    match d.current with
    | none => { d with general := Setting.replace key (.text value) d.general }
    | some (name, pairs) =>
      { d with current := some (name, Setting.replace key (.text value) pairs) }

/-- The table of the document. A section hides a pair of its name. -/
def toTable (d : Draft) : List (String × Setting) :=
  d.close.sections.foldl (fun t (name, pairs) => Setting.replace name (.table pairs) t) d.general

end Draft

/-- The table of a text. -/
def parse? (s : List Char) : Option (List (String × Setting)) :=
  (statements? true s).map fun statements =>
    (statements.foldl Draft.add ⟨[], [], none⟩).toTable

end ClassScribe.Ini
