import ClassScribe.Json.Document
import ClassScribe.Json.NumberLiteral
import ClassScribe.Number.Numeral
import ClassScribe.Text.Blank
import ClassScribe.Text.Part

/-! # Reading JSON

The grammar of JSON texts over lists of characters. Every reader returns what follows the part that
it has read, with a proof that it is shorter. -/

namespace ClassScribe.Json
open Text (Part)

/-- White space between the parts of a JSON text. -/
def isSpace (c : Char) : Bool := c == ' ' || c == '\n' || c == '\t' || c == '\r'

/-- What follows the white space at the start. -/
def skipSpace (s : List Char) : List Char := s.dropWhile isSpace

theorem skipSpace_length {s rest : List Char} {c : Char} (h : skipSpace s = c :: rest) :
    rest.length < s.length := by
  have := (List.dropWhile_suffix (l := s) isSpace).length_le
  rw [show s.dropWhile isSpace = c :: rest from h, List.length_cons] at this
  omega

/-! ### Strings -/

/-- A part of a string: a character, or half of a surrogate pair. -/
inductive Unit16
  | char (c : Char)
  | half (n : Nat)
  deriving DecidableEq, Repr

/-- The character of a short escape. -/
def shortEscape? (c : Char) : Option Char :=
  match c with
  | '"' => some '"'
  | '\\' => some '\\'
  | '/' => some '/'
  | 'b' => some '\x08'
  | 'f' => some '\x0c'
  | 'n' => some '\n'
  | 'r' => some '\r'
  | 't' => some '\t'
  | _ => none

/-- The part that a code unit stands for. -/
def unitOf (n : Nat) : Unit16 :=
  if 0xD800 ≤ n ∧ n < 0xE000 then .half n else .char (Char.ofNat n)

/-- The parts of a string and what follows its closing quote. -/
def readUnits : (s : List Char) → Option (List Unit16 × List Char)
  | [] => none
  | '"' :: rest => some ([], rest)
  | '\\' :: 'u' :: a :: b :: c :: d :: rest => do
    let n ← Numeral.value? 16 [a, b, c, d]
    let (units, rest) ← readUnits rest
    pure (unitOf n :: units, rest)
  | '\\' :: e :: rest => do
    let c ← shortEscape? e
    let (units, rest) ← readUnits rest
    pure (.char c :: units, rest)
  | c :: rest =>
    if c.toNat < 32 || c = '\\' then none
    else do
      let (units, rest) ← readUnits rest
      pure (.char c :: units, rest)

/-- The text of a string whose surrogates come in pairs. -/
def joinUnits : List Unit16 → Option (List Char)
  | [] => some []
  | .char c :: rest => (joinUnits rest).map (c :: ·)
  | .half hi :: .half lo :: rest =>
    if hi < 0xDC00 ∧ 0xDC00 ≤ lo then
      (joinUnits rest).map (Char.ofNat (0x10000 + (hi - 0xD800) * 0x400 + (lo - 0xDC00)) :: ·)
    else none
  | .half _ :: _ => none

theorem readUnits_length {s rest : List Char} {us : List Unit16}
    (h : readUnits s = some (us, rest)) : rest.length < s.length := by
  fun_induction readUnits s generalizing us rest with
  | case1 => simp at h
  | case2 r => simp at h; simp [h]
  | case3 a b c d r ih =>
    simp only [Option.bind_eq_bind, Option.bind_eq_some_iff, Option.pure_def] at h
    obtain ⟨_, _, ⟨us', r'⟩, h2, h3⟩ := h
    obtain ⟨_, rfl⟩ := Prod.mk.inj (Option.some.inj h3)
    have := ih h2
    simp only [List.length_cons]
    omega
  | case4 e r _ ih =>
    simp only [Option.bind_eq_bind, Option.bind_eq_some_iff, Option.pure_def] at h
    obtain ⟨_, _, ⟨us', r'⟩, h2, h3⟩ := h
    obtain ⟨_, rfl⟩ := Prod.mk.inj (Option.some.inj h3)
    have := ih h2
    simp only [List.length_cons]
    omega
  | case5 => simp at h
  | case6 c r _ _ _ _ ih =>
    simp only [Option.bind_eq_bind, Option.bind_eq_some_iff, Option.pure_def] at h
    obtain ⟨⟨us', r'⟩, h2, h3⟩ := h
    obtain ⟨_, rfl⟩ := Prod.mk.inj (Option.some.inj h3)
    have := ih h2
    simp only [List.length_cons]
    omega

/-- The string whose opening quote has been read. -/
def readString (s : List Char) : Part (Option String) s :=
  match h : readUnits s with
  | none => none
  | some (units, rest) => some ((joinUnits units).map String.ofList, ⟨rest, readUnits_length h⟩)

/-! ### Numbers -/

/-- The value of a decimal digit. -/
def digitValue (c : Char) : Nat := c.toNat - 48

/-- The digits at the start, if there is one, and what follows. -/
def readDigits (s : List Char) : Option (List Nat × List Char) :=
  match s.takeWhile Char.isDigit with
  | [] => none
  | digits => some (digits.map digitValue, s.dropWhile Char.isDigit)

/-- The integer part: a zero alone, or digits that do not start with zero. -/
def readInteger (s : List Char) : Option (List Nat × List Char) := do
  let (digits, rest) ← readDigits s
  if digits.head? = some 0 ∧ digits.length ≠ 1 then none else pure (digits, rest)

/-- The part behind the point, if there is a point. -/
def readFraction : List Char → Option (Option (List Nat) × List Char)
  | '.' :: rest => (readDigits rest).map fun (ds, rest) => (some ds, rest)
  | rest => some (none, rest)

/-- The exponent, if there is one. -/
def readExponent : List Char → Option (Option (Bool × List Nat) × List Char)
  | e :: rest =>
    if e = 'e' ∨ e = 'E' then
      match rest with
      | '+' :: more => (readDigits more).map fun (ds, r) => (some (false, ds), r)
      | '-' :: more => (readDigits more).map fun (ds, r) => (some (true, ds), r)
      | more => (readDigits more).map fun (ds, r) => (some (false, ds), r)
    else some (none, e :: rest)
  | [] => some (none, [])

/-- A number literal and what follows. -/
def readNumber (s : List Char) : Option (NumberLiteral × List Char) := do
  let (negative, body) := match s with
    | '-' :: rest => (true, rest)
    | rest => (false, rest)
  let (integer, rest) ← readInteger body
  let (fraction, rest) ← readFraction rest
  let (exponent, rest) ← readExponent rest
  pure (⟨negative, integer, fraction, exponent⟩, rest)

/-! ### Documents -/

mutual
/-- A value at the start of the text. -/
def readValue (s : List Char) : Part Json s :=
  match h : skipSpace s with
  | [] => none
  | c :: rest =>
    have hs := skipSpace_length h
    if c = '"' then
      match readString rest with
      | none => none
      | some (str, ⟨r, hr⟩) => some (.string str, ⟨r, Nat.lt_trans hr hs⟩)
    else if c = '[' then
      match hr : skipSpace rest with
      | ']' :: r => some (.array [], ⟨r, Nat.lt_trans (skipSpace_length hr) hs⟩)
      | _ =>
        match readItems rest with
        | none => none
        | some (items, ⟨r, hr⟩) => some (.array items, ⟨r, Nat.lt_trans hr hs⟩)
    else if c = '\x7b' then
      match hr : skipSpace rest with
      | '\x7d' :: r => some (.object [], ⟨r, Nat.lt_trans (skipSpace_length hr) hs⟩)
      | _ =>
        match readMembers rest with
        | none => none
        | some (members, ⟨r, hr⟩) => some (.object members, ⟨r, Nat.lt_trans hr hs⟩)
    else if c = '-' ∨ c.isDigit then
      match readNumber (c :: rest) with
      | none => none
      | some (l, r) => Part.of? s (.number l.toNumber?) r
    else
      match Text.dropLead? ['n', 'u', 'l', 'l'] (c :: rest) with
      | some r => Part.of? s .null r
      | none =>
        match Text.dropLead? ['t', 'r', 'u', 'e'] (c :: rest) with
        | some r => Part.of? s (.bool true) r
        | none =>
          match Text.dropLead? ['f', 'a', 'l', 's', 'e'] (c :: rest) with
          | some r => Part.of? s (.bool false) r
          | none => none
termination_by (s.length, 0)
decreasing_by all_goals exact Prod.Lex.left _ _ (by omega)

/-- Items with commas between them, up to the closing bracket. -/
def readItems (s : List Char) : Part (List Json) s :=
  match readValue s with
  | none => none
  | some (x, ⟨r, hr⟩) =>
    match h : skipSpace r with
    | ']' :: r2 => some ([x], ⟨r2, Nat.lt_trans (skipSpace_length h) hr⟩)
    | ',' :: r2 =>
      have h2 := Nat.lt_trans (skipSpace_length h) hr
      match readItems r2 with
      | none => none
      | some (xs, ⟨r3, h3⟩) => some (x :: xs, ⟨r3, Nat.lt_trans h3 h2⟩)
    | _ => none
termination_by (s.length, 1)
decreasing_by
  · exact Prod.Lex.right _ Nat.zero_lt_one
  · exact Prod.Lex.left _ _ h2

/-- Members with commas between them, up to the closing brace. -/
def readMembers (s : List Char) : Part (List (Option String × Json)) s :=
  match h : skipSpace s with
  | '"' :: r =>
    have h0 := skipSpace_length h
    match readString r with
    | none => none
    | some (key, ⟨r1, h1⟩) =>
      match hc : skipSpace r1 with
      | ':' :: r2 =>
        have h2 := Nat.lt_trans (skipSpace_length hc) (Nat.lt_trans h1 h0)
        match readValue r2 with
        | none => none
        | some (x, ⟨r3, h3⟩) =>
          match he : skipSpace r3 with
          | '\x7d' :: r4 =>
            some ([(key, x)], ⟨r4, Nat.lt_trans (skipSpace_length he) (Nat.lt_trans h3 h2)⟩)
          | ',' :: r4 =>
            have h4 := Nat.lt_trans (skipSpace_length he) (Nat.lt_trans h3 h2)
            match readMembers r4 with
            | none => none
            | some (more, ⟨r5, h5⟩) => some ((key, x) :: more, ⟨r5, Nat.lt_trans h5 h4⟩)
          | _ => none
      | _ => none
  | _ => none
termination_by (s.length, 1)
decreasing_by
  · exact Prod.Lex.left _ _ h2
  · exact Prod.Lex.left _ _ h4
end

/-- The document of a text that holds nothing else. -/
def parse? (s : List Char) : Option Json :=
  match readValue s with
  | none => none
  | some (doc, ⟨rest, _⟩) => if (skipSpace rest).isEmpty then some doc else none

/-- The value of a text. -/
def parseValue? (s : String) : Option Value := (parse? s.toList).bind (toValue? maxDepth)

end ClassScribe.Json
