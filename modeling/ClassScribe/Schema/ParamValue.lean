import ClassScribe.Number.Basic

/-! # Values of parameter constants

Numbers, texts, and references to values that are defined elsewhere, with the literals that stand
for them in a class source. -/

namespace ClassScribe

/-- The value of a parameter constant. -/
inductive ParamValue
  | number (value : Number)
  | text (value : String)
  | reference (source : String)
  deriving DecidableEq, Repr

namespace ParamValue

/-- A text with a backslash before each occurrence of a character. -/
def escape (c : Char) (s : List Char) : List Char := s.flatMap fun d => if d = c then ['\\', d] else [d]

/-- A text between single quotes: backslashes are escaped, and then quotes, and nothing else. -/
def quote (s : List Char) : List Char := '\'' :: escape '\'' (escape '\\' s) ++ ['\'']

/-- How a character stands between single quotes. -/
def quotedChar (c : Char) : List Char :=
  if c = '\\' then ['\\', '\\'] else if c = '\'' then ['\\', '\''] else [c]

/-- The second pass leaves the backslashes of the first one alone, so that both are one pass. -/
theorem escape_escape (s : List Char) : escape '\'' (escape '\\' s) = s.flatMap quotedChar := by
  induction s with
  | nil => rfl
  | cons c s ih =>
      have hchar : escape '\'' (if c = '\\' then ['\\', c] else [c]) = quotedChar c := by
        by_cases hslash : c = '\\'
        · subst hslash
          rfl
        by_cases hquote : c = '\''
        · subst hquote
          rfl
        · simp [escape, quotedChar, hslash, hquote]
      rw [List.flatMap_cons, ← hchar, ← ih, escape, escape, List.flatMap_cons, List.flatMap_append]
      rfl

theorem quote_eq_flatMap (s : List Char) : quote s = '\'' :: s.flatMap quotedChar ++ ['\''] := by
  rw [quote, escape_escape]

/-- The literal of a value in a class source. -/
def literal : ParamValue → String
  | .number n => String.ofList n.literalText
  | .text s => String.ofList (quote s.toList)
  | .reference source => source

/-- The text that a value is found by. -/
def lookupText : ParamValue → String
  | .number n => String.ofList n.literalText
  | .text s => s
  | .reference source => source

/-- The type tag of a value in comments. -/
def tag : ParamValue → String
  | .number _ => "Number"
  | .text _ => "String"
  | .reference _ => "Object"

end ParamValue
end ClassScribe
