import ClassScribe.Value

/-! # JSON texts of values

The compact text of a value: no blanks, the keys of a mapping in their order, and escapes for
quotes, backslashes and controls only. -/

namespace ClassScribe.Json

/-- A digit of the hexadecimal system. -/
def hexDigit (n : Nat) : Char := if n < 10 then Char.ofNat (48 + n) else Char.ofNat (87 + n)

/-- How a character stands inside a JSON string. -/
def escaped (c : Char) : List Char :=
  if c = '"' then ['\\', '"']
  else if c = '\\' then ['\\', '\\']
  else if c = '\n' then ['\\', 'n']
  else if c = '\r' then ['\\', 'r']
  else if c = '\t' then ['\\', 't']
  else if c = '\x08' then ['\\', 'b']
  else if c = '\x0c' then ['\\', 'f']
  else if c.toNat < 32 then
    ['\\', 'u', '0', '0', hexDigit (c.toNat / 16), hexDigit (c.toNat % 16)]
  else [c]

/-- A text as a JSON string. -/
def stringText (s : String) : List Char := '"' :: s.toList.flatMap escaped ++ ['"']

mutual
/-- The JSON text of a value. -/
def valueText : Value → List Char
  | .none => ['n', 'u', 'l', 'l']
  | .bool true => ['t', 'r', 'u', 'e']
  | .bool false => ['f', 'a', 'l', 's', 'e']
  | .number n => n.text
  | .text s => stringText s
  | .sequence items => '[' :: itemsText items ++ [']']
  | .mapping fields => '\x7b' :: fieldsText fields ++ ['\x7d']
/-- The texts of the items of a sequence, with commas between them. -/
def itemsText : List Value → List Char
  | [] => []
  | [x] => valueText x
  | x :: y :: rest => valueText x ++ ',' :: itemsText (y :: rest)
/-- The texts of the fields of a mapping, with commas between them. -/
def fieldsText : List (String × Value) → List Char
  | [] => []
  | [(k, x)] => stringText k ++ ':' :: valueText x
  | (k, x) :: f :: rest => stringText k ++ ':' :: valueText x ++ ',' :: fieldsText (f :: rest)
end

end ClassScribe.Json
