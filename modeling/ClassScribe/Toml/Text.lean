import ClassScribe.Number.Numeral

/-! # TOML strings

The four kinds of strings: between double quotes, where a backslash escapes, or single ones, where it
does not, on one line or, between three quotes, on several ones. -/

namespace ClassScribe.Toml

/-- A character that may stand in strings and comments. -/
def isPrintable (c : Char) : Bool := c == '\t' || (' ' ≤ c && c ≠ '\x7f')

/-- A space or a tab. -/
def isGap (c : Char) : Bool := c == ' ' || c == '\t'

/-- What follows the end of a line, if the text starts with one. -/
def dropNewline? : List Char → Option (List Char)
  | '\n' :: rest => some rest
  | '\r' :: '\n' :: rest => some rest
  | _ => none

theorem dropNewline?_length {s r : List Char} (h : dropNewline? s = some r) :
    r.length < s.length := by
  unfold dropNewline? at h
  split at h
  · obtain rfl := Option.some.inj h
    simp
  · obtain rfl := Option.some.inj h
    simp only [List.length_cons]
    omega
  · simp at h

/-- What follows white space and ends of lines. -/
def dropBlank (s : List Char) : List Char :=
  match s with
  | '\r' :: '\n' :: rest => dropBlank rest
  | c :: rest => if isGap c || c = '\n' then dropBlank rest else s
  | [] => []

theorem dropBlank_length_le (s : List Char) : (dropBlank s).length ≤ s.length := by
  fun_induction dropBlank s with
  | case1 r ih => simp; omega
  | case2 c r _ _ ih => simp; omega
  | case3 => simp
  | case4 => simp

/-- The character of a short escape. -/
def shortEscape? : Char → Option Char
  | 'b' => some '\x08'
  | 't' => some '\t'
  | 'n' => some '\n'
  | 'f' => some '\x0c'
  | 'r' => some '\r'
  | '"' => some '"'
  | '\\' => some '\\'
  | _ => none

/-- The character of an escape, from what follows the backslash, and how many characters the escape
takes after it. -/
def escape? : List Char → Option (Char × Nat)
  | [] => none
  | letter :: rest =>
    let count := if letter = 'u' then 4 else if letter = 'U' then 8 else 0
    if count = 0 then (shortEscape? letter).map (·, 1)
    else do
      let n ← Numeral.value? 16 (rest.take count)
      if (rest.take count).length = count ∧ n.isValidChar then some (Char.ofNat n, count + 1)
      else none

/-- Whether a backslash joins two lines. -/
def joinsLines (rest : List Char) : Bool := (dropNewline? (rest.dropWhile isGap)).isSome

/-- Reads a string behind its opening quotes: its text, and what follows the closing ones. Before
the three closing quotes up to two quotes belong to the text. -/
def readText (double multi : Bool) (s : List Char) : Option (List Char × List Char) :=
  let quote := if double then '"' else '\''
  match s with
  | [] => none
  | c :: rest =>
    if c = quote then
      let run := ((c :: rest).takeWhile (· == quote)).length
      if !multi then some ([], rest)
      else if run < 3 then (readText double multi rest).map fun (t, r) => (c :: t, r)
      else some (List.replicate (min (run - 3) 2) c, rest.drop (min run 5 - 1))
    else if double && c = '\\' then
      if multi && joinsLines rest then readText double multi (dropBlank rest)
      else
        match escape? rest with
        | none => none
        | some (e, count) =>
          (readText double multi (rest.drop count)).map fun (t, r) => (e :: t, r)
    else if multi && c = '\n' then (readText double multi rest).map fun (t, r) => ('\n' :: t, r)
    else if multi && c = '\r' && rest.head? = some '\n' then
      (readText double multi (rest.drop 1)).map fun (t, r) => ('\n' :: t, r)
    else if isPrintable c then (readText double multi rest).map fun (t, r) => (c :: t, r)
    else none
termination_by s.length
decreasing_by
  all_goals simp only [List.length_cons, List.length_drop]
  · omega
  · have := dropBlank_length_le rest
    omega
  all_goals omega

theorem readText_length_le {double multi : Bool} {s t r : List Char}
    (h : readText double multi s = some (t, r)) : r.length ≤ s.length := by
  fun_induction readText double multi s generalizing t r with
  | case1 | case6 | case11 => simp at h
  | case2 => simp at h; simp [h]
  | case4 => simp at h; simp [← h.2]; omega
  | case5 =>
    rename_i rest _ _ _ ih
    have := ih h
    have := dropBlank_length_le rest
    simp
    omega
  | case3 | case7 | case8 | case9 | case10 =>
    rename_i ih
    simp only [Option.map_eq_some_iff, Prod.exists, Prod.mk.injEq] at h
    obtain ⟨_, _, h, _, rfl⟩ := h
    have := ih h
    simp only [List.length_drop, List.length_cons] at this ⊢
    omega

/-- Reads a string on one line, from its opening quote on. -/
def readLine? (s : List Char) : Option (List Char × List Char) :=
  match s with
  | '"' :: rest => readText true false rest
  | '\'' :: rest => readText false false rest
  | _ => none

/-- Reads a string behind three opening quotes; an end of a line right after them does not count. -/
def readBlock? (double : Bool) (s : List Char) : Option (List Char × List Char) :=
  readText double true ((dropNewline? s).getD s)

/-- Reads a string, from its opening quote on. -/
def readString? (s : List Char) : Option (List Char × List Char) :=
  match s with
  | '"' :: '"' :: '"' :: rest => readBlock? true rest
  | '\'' :: '\'' :: '\'' :: rest => readBlock? false rest
  | _ => readLine? s

theorem readLine?_length {s t r : List Char} (h : readLine? s = some (t, r)) :
    r.length < s.length := by
  unfold readLine? at h
  split at h
  · exact Nat.lt_succ_of_le (readText_length_le h)
  · exact Nat.lt_succ_of_le (readText_length_le h)
  · simp at h

theorem readBlock?_length_le {double : Bool} {s t r : List Char}
    (h : readBlock? double s = some (t, r)) : r.length ≤ s.length := by
  unfold readBlock? at h
  refine Nat.le_trans (readText_length_le h) ?_
  cases hs : dropNewline? s with
  | none => simp
  | some d => exact Nat.le_of_lt (dropNewline?_length hs)

theorem readString?_length {s t r : List Char} (h : readString? s = some (t, r)) :
    r.length < s.length := by
  unfold readString? at h
  split at h
  · have := readBlock?_length_le h
    simp
    omega
  · have := readBlock?_length_le h
    simp
    omega
  · exact readLine?_length h

end ClassScribe.Toml
