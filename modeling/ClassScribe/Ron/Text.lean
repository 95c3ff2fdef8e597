import ClassScribe.Number.Numeral

/-! # Space, names and strings of RON

What may stand between the parts of a RON text, names, and characters and strings between quotes. -/

namespace ClassScribe.Ron

/-! ### Between the parts -/

/-- White space. -/
def isSpace (c : Char) : Bool := c == ' ' || c == '\n' || c == '\t' || c == '\r'

/-- What follows the end of a comment between slashes and stars; `depth` more comments are open around
it. -/
def closeComment? (depth : Nat) (s : List Char) : Option (List Char) :=
  match s, depth with
  | '*' :: '/' :: rest, 0 => some rest
  | '*' :: '/' :: rest, depth + 1 => closeComment? depth rest
  | '/' :: '*' :: rest, depth => closeComment? (depth + 1) rest
  | _ :: rest, depth => closeComment? depth rest
  | [], _ => none
termination_by s.length

theorem closeComment?_length {depth : Nat} {s r : List Char} (h : closeComment? depth s = some r) :
    r.length < s.length := by
  fun_induction closeComment? depth s with
  | case1 =>
    obtain rfl := Option.some.inj h
    simp only [List.length_cons]
    omega
  | case2 _ _ ih | case3 _ _ ih | case4 _ _ _ _ _ _ ih =>
    have := ih h
    simp only [List.length_cons]
    omega
  | case5 => simp at h

/-- What follows white space and comments. -/
def skip (s : List Char) : List Char :=
  match s with
  | [] => []
  | c :: rest =>
    if isSpace c then skip rest
    else if c = '/' then
      match rest with
      | '/' :: rest => skip (rest.dropWhile (· != '\n'))
      | '*' :: rest =>
        match _h : closeComment? 0 rest with
        | some r => skip r
        | none => c :: '*' :: rest
      | rest => c :: rest
    else c :: rest
termination_by s.length
decreasing_by
  · simp
  · have := (List.dropWhile_suffix (l := rest) (· != '\n')).length_le
    simp only [List.length_cons]
    omega
  · have := closeComment?_length _h
    simp only [List.length_cons]
    omega

theorem skip_length_le (s : List Char) : (skip s).length ≤ s.length := by
  fun_induction skip s with
  | case1 => simp
  | case2 _ _ _ ih => exact Nat.le_succ_of_le ih
  | case3 rest =>
    have := (List.dropWhile_suffix (l := rest) (· != '\n')).length_le
    simp only [List.length_cons]
    omega
  | case4 _ _ h =>
    have := closeComment?_length h
    simp only [List.length_cons]
    omega
  | case5 | case6 | case7 => simp

theorem skip_length {s rest : List Char} {c : Char} (h : skip s = c :: rest) :
    rest.length < s.length := by
  have := skip_length_le s
  rw [h, List.length_cons] at this
  omega

/-! ### Names -/

/-- A character of a name behind its first one. -/
def isNameChar (c : Char) : Bool := c.isAlphanum || c == '_'

/-- A character of a name that is marked as such. -/
def isMarkedChar (c : Char) : Bool := isNameChar c || c == '.' || c == '+' || c == '-'

/-- A name, and what follows. A mark before a name lets it hold points and signs. -/
def readName? (s : List Char) : Option (List Char × List Char) :=
  match s with
  | 'r' :: '#' :: rest =>
    let name := rest.takeWhile isMarkedChar
    if name.isEmpty then none else some (name, rest.drop name.length)
  | 'r' :: '"' :: _ => none
  | c :: rest =>
    let name := (c :: rest).takeWhile isNameChar
    if (c.isAlpha || c == '_') && name.length = ((c :: rest).takeWhile isMarkedChar).length then
      some (name, (c :: rest).drop name.length)
    else none
  | [] => none

/-! ### Characters and strings -/

/-- The character of a short escape. -/
def shortEscape? : Char → Option Char
  | '\'' => some '\''
  | '"' => some '"'
  | '\\' => some '\\'
  | 'n' => some '\n'
  | 'r' => some '\r'
  | 't' => some '\t'
  | '0' => some '\x00'
  | _ => none

/-- The character of an escape behind its backslash, and how many characters the escape takes. -/
def escape? : List Char → Option (Char × Nat)
  | 'x' :: a :: b :: _ => (Numeral.value? 16 [a, b]).map fun n => (Char.ofNat n, 3)
  | 'u' :: '\x7b' :: rest => do
    let digits := rest.takeWhile (· != '\x7d')
    let n ← Numeral.value? 16 digits
    if digits.length ≤ 6 ∧ digits.length < rest.length ∧ n.isValidChar then
      some (Char.ofNat n, digits.length + 3)
    else none
  | c :: _ => (shortEscape? c).map (·, 1)
  | [] => none

/-- The text up to the closing quote, and what follows. -/
def readEscaped? (s : List Char) : Option (List Char × List Char) :=
  match s with
  | [] => none
  | '"' :: rest => some ([], rest)
  | '\\' :: rest =>
    match escape? rest with
    | none => none
    | some (c, count) => (readEscaped? (rest.drop count)).map fun (t, r) => (c :: t, r)
  | c :: rest => (readEscaped? rest).map fun (t, r) => (c :: t, r)
termination_by s.length
decreasing_by all_goals (simp only [List.length_cons, List.length_drop]; omega)

/-- The text up to a quote with as many number signs behind it as `marks`, and what follows. -/
def readRaw? (marks : List Char) : List Char → Option (List Char × List Char)
  | [] => none
  | c :: rest =>
    if c = '"' ∧ rest.take marks.length = marks then some ([], rest.drop marks.length)
    else (readRaw? marks rest).map fun (t, r) => (c :: t, r)

/-- A string, and what follows. -/
def readString? (s : List Char) : Option (List Char × List Char) :=
  match s with
  | '"' :: rest => readEscaped? rest
  | 'r' :: rest =>
    let marks := rest.takeWhile (· == '#')
    match rest.drop marks.length with
    | '"' :: rest => readRaw? marks rest
    | _ => none
  | _ => none

/-- A character between quotes, and what follows. -/
def readChar? (s : List Char) : Option (Char × List Char) :=
  let part := match s with
    | '\'' :: '\\' :: rest => (escape? rest).map fun (c, count) => (c, rest.drop count)
    | '\'' :: c :: rest => some (c, rest)
    | _ => none
  match part with
  | some (c, '\'' :: rest) => some (c, rest)
  | _ => none

/-- A string or a character as a text, and what follows. -/
def readText? (s : List Char) : Option (List Char × List Char) :=
  match readString? s, readChar? s with
  | some found, _ => some found
  | none, found => found.map fun (c, r) => ([c], r)

end ClassScribe.Ron
