import ClassScribe.Json.Text

/-! # Writing TOML strings

A string with quotes or backslashes and nothing that needs an escape is written between single quotes;
every other one between double quotes. A string with an end of a line takes three quotes and starts
on the next line. -/

namespace ClassScribe.Toml

/-- A character that can stand in a string without escapes. -/
def isPlain (c : Char) : Bool := c == '\t' || c == '\n' || (' ' ≤ c && c ≠ '\x7f')

/-- Whether three single quotes stand in a row. -/
def hasTripleQuote : List Char → Bool
  | '\'' :: '\'' :: '\'' :: _ => true
  | _ :: rest => hasTripleQuote rest
  | [] => false

/-- Whether a string is written without escapes: it would need some otherwise, it has no control
character, and its single quotes cannot be taken for the closing ones. -/
def isLiteral (s : List Char) : Bool :=
  s.any (fun c => c == '"' || c == '\\') && s.all isPlain && !hasTripleQuote s &&
    s.getLast? != some '\''

/-- A hexadecimal digit in capitals. -/
def hexDigit (n : Nat) : Char := if n < 10 then Char.ofNat (48 + n) else Char.ofNat (55 + n)

/-- How a character stands between double quotes. -/
def escaped (multi : Bool) (c : Char) : List Char :=
  if c = '\n' then (if multi then ['\n'] else ['\\', 'n'])
  else if c = '\t' then ['\\', 't']
  else if c = '\r' then ['\\', 'r']
  else if c = '\x08' then ['\\', 'b']
  else if c = '\x0c' then ['\\', 'f']
  else if c = '"' ∨ c = '\\' then ['\\', c]
  else if c < ' ' ∨ c = '\x7f' then
    ['\\', 'u', '0', '0', hexDigit (c.toNat / 16), hexDigit (c.toNat % 16)]
  else [c]

/-- A text as a TOML string. -/
def quote (s : List Char) : List Char :=
  let multi := s.contains '\n'
  if isLiteral s then
    let marks := if multi || s.contains '\'' then ['\'', '\'', '\''] else ['\'']
    marks ++ (if multi then ['\n'] else []) ++ s ++ marks
  else
    let marks := if multi then ['"', '"', '"'] else ['"']
    marks ++ (if multi then ['\n'] else []) ++ s.flatMap (escaped multi) ++ marks

/-- A key and a text, as a line. -/
def textLine (key value : String) : String :=
  key ++ " = " ++ String.ofList (quote value.toList) ++ "\n"

/-- A key and a word, as a line. -/
def wordLine (key word : String) : String := key ++ " = " ++ word ++ "\n"

end ClassScribe.Toml
