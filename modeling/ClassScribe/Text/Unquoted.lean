import ClassScribe.Text.Blank

/-! # White space outside of strings

The white-space characters that keyboards write, and the string literal that is open behind a text. -/

namespace ClassScribe.Text

/-- A space, a tab or a line feed. -/
def isPlainBlank (c : Char) : Bool := c == ' ' || c == '\t' || c == '\n'

/-- A character that opens and closes a string literal. -/
def isQuote (c : Char) : Bool := c == '"' || c == '\''

/-- The quote of the string literal that is open behind a text, where one may be open before the text. In a
literal, the character behind a backslash does not close it. -/
def quoteBehind : Option Char → List Char → Option Char
  | quote, [] => quote
  | none, c :: s => quoteBehind (if isQuote c then some c else none) s
  | some q, ['\\'] => some q
  | some q, '\\' :: _ :: s => quoteBehind (some q) s
  | some q, c :: s => quoteBehind (if c = q then none else some q) s

end ClassScribe.Text
