import ClassScribe.Text.Blank

/-! # Margins

Moving the lines of a text to the right by a padding, and back to the margin of its first line
that is not blank. -/

namespace ClassScribe.Text

/-- Lines with line feeds between them. -/
def joinLines (ls : List (List Char)) : List Char := ['\n'].intercalate ls

/-- A line behind a padding; a blank line stays as it is. -/
def padLine (padding line : List Char) : List Char :=
  if isAllBlank line then line else padding ++ line

/-- Puts a padding before every line that is not blank, before the first one only if asked to. -/
def indent (padding : List Char) (first : Bool) (s : List Char) : List Char :=
  match s.splitOn '\n' with
  | [] => []
  | line :: rest =>
    joinLines ((if first then padLine padding line else line) :: rest.map (padLine padding))

/-- The number of white-space characters that a line starts with. -/
def margin (line : List Char) : Nat := (line.takeWhile isBlank).length

/-- The line without its leading white space, of which at most `n` characters go. -/
def dropMargin : Nat → List Char → List Char
  | n + 1, c :: rest => if isBlank c then dropMargin n rest else c :: rest
  | _, line => line

/-- The lines from the first to the last one that is not blank. -/
def trimBlankLines (ls : List (List Char)) : List (List Char) :=
  ((ls.dropWhile isAllBlank).reverse.dropWhile isAllBlank).reverse

/-- Moves the text to the left so that its first line that is not blank has no margin, and drops
the blank lines at both ends. A line with a smaller margin loses what it has. -/
def dedent (s : List Char) : List Char :=
  match trimBlankLines (lines s) with
  | [] => []
  | line :: rest => joinLines ((line :: rest).map (dropMargin (margin line)))

end ClassScribe.Text
