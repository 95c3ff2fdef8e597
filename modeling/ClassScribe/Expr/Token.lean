import ClassScribe.Number.Layout
import ClassScribe.Text.Blank
import ClassScribe.Text.Letter
import ClassScribe.Text.Quoted

/-! # Tokens of expressions

Names, strings, numbers and symbols, with ASCII white space between them. -/

namespace ClassScribe

/-- The symbols of expressions. -/
inductive Symbol
  | eq
  | ne
  | le
  | ge
  | lt
  | gt
  | plus
  | minus
  | tilde
  | pipe
  | dot
  | comma
  | openParen
  | closeParen
  | openBracket
  | closeBracket
  deriving DecidableEq, Repr

/-- How a symbol is written. -/
def Symbol.text : Symbol → String
  | .eq => "=="
  | .ne => "!="
  | .le => "<="
  | .ge => ">="
  | .lt => "<"
  | .gt => ">"
  | .plus => "+"
  | .minus => "-"
  | .tilde => "~"
  | .pipe => "|"
  | .dot => "."
  | .comma => ","
  | .openParen => "("
  | .closeParen => ")"
  | .openBracket => "["
  | .closeBracket => "]"

/-- The symbol that the text starts with, two characters before one. -/
def Symbol.read? : List Char → Option (Symbol × List Char)
  | '=' :: '=' :: rest => some (.eq, rest)
  | '!' :: '=' :: rest => some (.ne, rest)
  | '<' :: '=' :: rest => some (.le, rest)
  | '>' :: '=' :: rest => some (.ge, rest)
  | '<' :: rest => some (.lt, rest)
  | '>' :: rest => some (.gt, rest)
  | '+' :: rest => some (.plus, rest)
  | '-' :: rest => some (.minus, rest)
  | '~' :: rest => some (.tilde, rest)
  | '|' :: rest => some (.pipe, rest)
  | '.' :: rest => some (.dot, rest)
  | ',' :: rest => some (.comma, rest)
  | '(' :: rest => some (.openParen, rest)
  | ')' :: rest => some (.closeParen, rest)
  | '[' :: rest => some (.openBracket, rest)
  | ']' :: rest => some (.closeBracket, rest)
  | _ => none

/-- A token of an expression. A number with a point may be too large for a binary number. -/
inductive Token
  | name (name : String)
  | text (value : String)
  | int (value : Nat)
  | float (value : Option Binary64)
  | symbol (symbol : Symbol)
  deriving DecidableEq, Repr

namespace Token

/-- How a message refers to a token. -/
def describe : Token → String
  | .name n => "`" ++ n ++ "`"
  | .text s => "string " ++ Text.quotedString s
  | .int i => "number " ++ String.ofList (digitsOf i)
  | .float (some x) => "number " ++ String.ofList x.plainText
  | .float none => "number inf"
  | .symbol s => "`" ++ s.text ++ "`"

/-- Why a text has no tokens. -/
inductive Error
  | invalidNumber (digits : String)
  | unexpectedCharacter (c : Char)
  | unterminatedString
  deriving DecidableEq, Repr

/-- The text of the failure. -/
def Error.message : Error → String
  | .invalidNumber digits => "invalid number `" ++ digits ++ "`"
  | .unexpectedCharacter c => "unexpected character `" ++ String.singleton c ++ "`"
  | .unterminatedString => "unterminated string literal"

/-! ### Strings -/

/-- The character that an escape stands for. -/
def unescape : Char → Char
  | 'n' => '\n'
  | 't' => '\t'
  | c => c

/-- The text up to the closing quote and what follows it. -/
def readString (quote : Char) : List Char → Option (List Char × List Char)
  | [] => none
  | '\\' :: c :: rest => (readString quote rest).map fun (s, r) => (unescape c :: s, r)
  | ['\\'] => none
  | c :: rest =>
    if c = quote then some ([], rest)
    else (readString quote rest).map fun (s, r) => (c :: s, r)

/-! ### Numbers -/

/-- The digits at the start, with every point that stands before a digit, and what follows. -/
def spanNumber : List Char → List Char × List Char
  | '.' :: d :: rest =>
    if d.isDigit then
      let (s, r) := spanNumber (d :: rest)
      ('.' :: s, r)
    else ([], '.' :: d :: rest)
  | c :: rest =>
    if c.isDigit then
      let (s, r) := spanNumber rest
      (c :: s, r)
    else ([], c :: rest)
  | [] => ([], [])

/-- The value of decimal digits. -/
def valueOf (digits : List Char) : Nat := digits.foldl (fun n c => n * 10 + (c.toNat - 48)) 0

/-- The token of digits and points: an integer below `2 ^ 63`, or a number with one point. -/
def ofNumber (s : List Char) : Except Error Token :=
  match s.splitOn '.' with
  | [digits] =>
    let n := valueOf digits
    if n ≤ 0x7FFFFFFFFFFFFFFF then .ok (.int n) else .error (.invalidNumber (String.ofList s))
  | [whole, places] =>
    .ok (.float (Binary64.ofDecimal? false (valueOf (whole ++ places)) (-places.length)))
  | _ => .error (.invalidNumber (String.ofList s))

/-! ### Tokens -/

/-- The token at the start of a text that does not start with white space, and what follows. -/
def read (c : Char) (rest : List Char) : Except Error (Token × List Char) :=
  if c = '"' ∨ c = '\'' then
    match readString c rest with
    | some (s, r) => .ok (.text (String.ofList s), r)
    | none => .error .unterminatedString
  else if c.isDigit then
    let (digits, r) := spanNumber (c :: rest)
    (ofNumber digits).map (·, r)
  else if Text.isIdentStart c then
    .ok (.name (String.ofList (c :: rest.takeWhile Text.isIdentPart)),
      rest.dropWhile Text.isIdentPart)
  else
    match Symbol.read? (c :: rest) with
    | some (x, r) => .ok (.symbol x, r)
    | none => .error (.unexpectedCharacter c)

theorem readString_length {q : Char} {s t r : List Char} (h : readString q s = some (t, r)) :
    r.length < s.length := by
  fun_induction readString q s generalizing t r with
  | case1 => simp at h
  | case2 c rest ih =>
    simp only [Option.map_eq_some_iff, Prod.exists, Prod.mk.injEq] at h
    obtain ⟨_, _, h, _, rfl⟩ := h
    have := ih h
    simp; omega
  | case3 => simp at h
  | case4 rest => simp at h; simp [h]
  | case5 c rest _ _ _ ih =>
    simp only [Option.map_eq_some_iff, Prod.exists, Prod.mk.injEq] at h
    obtain ⟨_, _, h, _, rfl⟩ := h
    have := ih h
    simp; omega

theorem spanNumber_length (s : List Char) : (spanNumber s).2.length ≤ s.length := by
  fun_induction spanNumber s <;> simp_all <;> omega

theorem spanNumber_length_lt {c : Char} (h : c.isDigit = true) (rest : List Char) :
    (spanNumber (c :: rest)).2.length < (c :: rest).length := by
  unfold spanNumber
  split
  · rename_i d r heq
    simp only [List.cons.injEq] at heq
    obtain ⟨rfl, rfl⟩ := heq
    simp at h
  · rename_i heq
    simp only [List.cons.injEq] at heq
    obtain ⟨rfl, rfl⟩ := heq
    have := spanNumber_length rest
    simp [h]; omega
  · simp_all

theorem symbol_read?_length {s r : List Char} {x : Symbol} (h : Symbol.read? s = some (x, r)) :
    r.length < s.length := by
  unfold Symbol.read? at h
  split at h <;> simp at h <;> obtain ⟨_, rfl⟩ := h <;> simp only [List.length_cons] <;> omega

theorem read_length {c : Char} {rest r : List Char} {t : Token} (h : read c rest = .ok (t, r)) :
    r.length < (c :: rest).length := by
  unfold read at h
  split at h
  · split at h
    · rename_i s r' hs
      simp only [Except.ok.injEq, Prod.mk.injEq] at h
      obtain ⟨_, rfl⟩ := h
      have := readString_length hs
      simp; omega
    · simp at h
  · split at h
    · rename_i _ hd
      have := spanNumber_length_lt hd rest
      cases ho : ofNumber (spanNumber (c :: rest)).1 with
      | error e => simp [ho, Except.map] at h
      | ok t' =>
        simp only [ho, Except.map, Except.ok.injEq, Prod.mk.injEq] at h
        obtain ⟨_, rfl⟩ := h
        exact this
    · split at h
      · simp only [Except.ok.injEq, Prod.mk.injEq] at h
        obtain ⟨_, rfl⟩ := h
        have := (List.dropWhile_suffix Text.isIdentPart (l := rest)).length_le
        simp; omega
      · split at h
        · rename_i hs
          simp only [Except.ok.injEq, Prod.mk.injEq] at h
          obtain ⟨_, rfl⟩ := h
          exact symbol_read?_length hs
        · simp at h

/-- The tokens of a text. -/
def tokenize : List Char → Except Error (List Token)
  | [] => .ok []
  | c :: rest =>
    if Text.isAsciiBlank c then tokenize rest
    else
      match _h : read c rest with
      | .error e => .error e
      | .ok (t, r) => (tokenize r).map (t :: ·)
termination_by s => s.length
decreasing_by
  · simp
  · exact read_length _h

end Token
end ClassScribe
