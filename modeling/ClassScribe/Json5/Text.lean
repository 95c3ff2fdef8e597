import ClassScribe.Json.Parser
import ClassScribe.Text.Letter

/-! # Space, strings and names of JSON5

What may stand between the parts of a JSON5 text, strings in quotes of either kind, and names without
quotes. -/

namespace ClassScribe.Json5
open Json (Unit16)

/-! ### Between the parts -/

/-- A character that ends a line. -/
def isLineEnd (c : Char) : Bool := c == '\n' || c == '\r' || c == '\u2028' || c == '\u2029'

/-- White space between the parts. -/
def isSpace (c : Char) : Bool := (Text.isBlank c && c != '\u0085') || c == '\ufeff'

/-- What follows the end of a comment between slashes and stars. -/
def closeComment? : List Char → Option (List Char)
  | '*' :: '/' :: rest => some rest
  | _ :: rest => closeComment? rest
  | [] => none

theorem closeComment?_length {s r : List Char} (h : closeComment? s = some r) :
    r.length < s.length := by
  fun_induction closeComment? s with
  | case1 =>
    obtain rfl := Option.some.inj h
    simp only [List.length_cons]
    omega
  | case2 _ _ _ ih => exact Nat.lt_succ_of_lt (ih h)
  | case3 => simp at h

/-- What follows white space and comments. -/
def skip (s : List Char) : List Char :=
  match s with
  | [] => []
  | c :: rest =>
    if isSpace c then skip rest
    else if c = '/' then
      match rest with
      | '/' :: rest => skip (rest.dropWhile (!isLineEnd ·))
      | '*' :: rest =>
        match _h : closeComment? rest with
        | some r => skip r
        | none => c :: '*' :: rest
      | rest => c :: rest
    else c :: rest
termination_by s.length
decreasing_by
  · simp
  · have := (List.dropWhile_suffix (l := rest) (!isLineEnd ·)).length_le
    simp only [List.length_cons]
    omega
  · have := closeComment?_length _h
    simp only [List.length_cons]
    omega

theorem skip_length_le (s : List Char) : (skip s).length ≤ s.length := by
  fun_induction skip s with
  | case1 => simp
  | case2 _ _ _ ih => exact Nat.le_succ_of_le ih
  | case3 rest =>
    have := (List.dropWhile_suffix (l := rest) (!isLineEnd ·)).length_le
    simp only [List.length_cons]
    omega
  | case4 _ _ h =>
    have := closeComment?_length h
    simp only [List.length_cons]
    omega
  | case5 | case6 | case7 => simp

theorem skip_length {s rest : List Char} {c : Char} (h : skip s = c :: rest) :
    rest.length < s.length := by
  have := skip_length_le s
  rw [h, List.length_cons] at this
  omega

/-! ### Strings and names -/

/-- The character that a backslash makes of a character, unless that is not allowed. -/
def escaped? (c : Char) : Option Char :=
  if c = 'b' then some '\x08'
  else if c = 'f' then some '\x0c'
  else if c = 'n' then some '\n'
  else if c = 'r' then some '\r'
  else if c = 't' then some '\t'
  else if c = 'v' then some '\x0b'
  else if c = '0' then some '\x00'
  else if c.isDigit || c = 'x' || c = 'u' then none
  else some c

/-- The parts of a string up to its closing quote, and what follows. -/
def readUnits (quote : Char) (s : List Char) : Option (List Unit16 × List Char) :=
  match s with
  | [] => none
  | c :: rest =>
    if c = quote then some ([], rest)
    else if c = '\\' then
      match rest with
      | [] => none
      | '\r' :: '\n' :: rest => readUnits quote rest
      | e :: rest =>
        let count := if e = 'x' then 2 else if e = 'u' then 4 else 0
        if isLineEnd e then readUnits quote rest
        else if count = 0 then do
          let d ← escaped? e
          let (units, r) ← readUnits quote rest
          pure (.char d :: units, r)
        else do
          let n ← if (rest.take count).length = count then Numeral.value? 16 (rest.take count) else none
          let (units, r) ← readUnits quote (rest.drop count)
          pure (Json.unitOf n :: units, r)
    else if isLineEnd c then none
    else do
      let (units, r) ← readUnits quote rest
      pure (.char c :: units, r)
termination_by s.length
decreasing_by all_goals (simp only [List.length_cons, List.length_drop]; omega)

/-- A string whose opening quote has been read, and what follows. -/
def readString? (quote : Char) (s : List Char) : Option (String × List Char) := do
  let (units, r) ← readUnits quote s
  pure (String.ofList (← Json.joinUnits units), r)

/-- The first character of a name. -/
def isNameStart (c : Char) : Bool := c == '$' || c == '_' || Text.inRanges Text.alphabetic c

/-- A later character of a name. -/
def isNamePart (c : Char) : Bool := isNameStart c || Text.isWordlike c

/-- The characters of a name that has begun, or that is to begin, and what follows. -/
def readNameChars (begun : Bool) (s : List Char) : List Unit16 × List Char :=
  match s with
  | '\\' :: 'u' :: rest =>
    match if (rest.take 4).length = 4 then Numeral.value? 16 (rest.take 4) else none with
    | some n =>
      let (units, r) := readNameChars true (rest.drop 4)
      (Json.unitOf n :: units, r)
    | none => ([], s)
  | c :: rest =>
    if isNameStart c || (begun && isNamePart c) then
      let (units, r) := readNameChars true rest
      (.char c :: units, r)
    else ([], s)
  | [] => ([], [])
termination_by s.length
decreasing_by all_goals (simp only [List.length_cons, List.length_drop]; omega)

/-- A name or a string, and what follows. -/
def readKey? : List Char → Option (String × List Char)
  | [] => none
  | c :: rest =>
    if c = '"' ∨ c = '\'' then readString? c rest
    else
      match readNameChars false (c :: rest) with
      | ([], _) => none
      | (units, r) => (Json.joinUnits units).map fun name => (String.ofList name, r)

end ClassScribe.Json5
