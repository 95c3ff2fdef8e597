import ClassScribe.Text.Blank

/-! # Filling lines

Greedy word wrap: every line takes as many words as fit, and a word that is longer than a line
is cut into pieces, the last of which stays open for the words after it. -/

namespace ClassScribe.Text

/-- A long word cut into full lines and a last piece of at most `width` characters. -/
def cutWord (width : Nat) (word : List Char) : List (List Char) × List Char :=
  if _h : 0 < width ∧ width < word.length then
    let (full, last) := cutWord width (word.drop width)
    (word.take width :: full, last)
  else ([], word)
termination_by word.length
decreasing_by simp; omega

/-- A line, unless it is empty. -/
def closeLine (line : List Char) : List (List Char) := if line.isEmpty then [] else [line]

/-- The lines that the open line and the words after it fill. -/
def fillFrom (width : Nat) (line : List Char) : List (List Char) → List (List Char)
  | [] => closeLine line
  | word :: rest =>
    if !line.isEmpty && line.length + 1 + word.length ≤ width then
      fillFrom width (line ++ ' ' :: word) rest
    else
      let (full, last) := cutWord width word
      closeLine line ++ full ++ fillFrom width last rest

/-- The words of a text in lines of at most `width` characters; a width of zero counts as one. -/
def fill (width : Nat) (s : List Char) : List (List Char) := fillFrom (max width 1) [] (words s)

/-- The lines of a filled string. -/
def fillString (width : Nat) (s : String) : List String := (fill width s.toList).map String.ofList

end ClassScribe.Text
