import ClassScribe.Text.CharRange

/-! # White space

The white-space characters, trimming, words and lines. Texts are lists of characters here;
the functions on strings that other modules call stand at the end. -/

namespace ClassScribe.Text

/-- The characters with the property White Space. -/
def blanks : List CharRange :=
  [(0x9, 0xd), (0x20, 0x20), (0x85, 0x85), (0xa0, 0xa0), (0x1680, 0x1680), (0x2000, 0x200a),
   (0x2028, 0x2029), (0x202f, 0x202f), (0x205f, 0x205f), (0x3000, 0x3000)]

/-- White space of any script. -/
def isBlank (c : Char) : Bool := inRanges blanks c

/-- White space between the tokens of an expression: the vertical tab does not count. -/
def isAsciiBlank (c : Char) : Bool :=
  c == ' ' || c == '\t' || c == '\n' || c == '\x0c' || c == '\r'

/-! ### Trimming -/

/-- The text without its leading white space. -/
def trimStart (s : List Char) : List Char := s.dropWhile isBlank

/-- The text without its trailing characters of a class. -/
def dropEndWhile (p : Char → Bool) (s : List Char) : List Char := (s.reverse.dropWhile p).reverse

/-- The text without its trailing white space. -/
def trimEnd (s : List Char) : List Char := dropEndWhile isBlank s

/-- The text without white space at either end. -/
def trim (s : List Char) : List Char := trimEnd (trimStart s)

/-- A text of white space only. -/
def isAllBlank (s : List Char) : Bool := s.all isBlank

/-- A text without its white space. -/
def ink (s : List Char) : List Char := s.filter (!isBlank ·)

/-! ### Words -/

/-- The maximal runs without white space; `word` holds the run that is being read, reversed. -/
def wordsFrom (word : List Char) : List Char → List (List Char)
  | [] => if word.isEmpty then [] else [word.reverse]
  | c :: rest =>
    if isBlank c then
      if word.isEmpty then wordsFrom [] rest else word.reverse :: wordsFrom [] rest
    else wordsFrom (c :: word) rest

/-- The words of a text: its maximal runs without white space. -/
def words (s : List Char) : List (List Char) := wordsFrom [] s

/-- The text up to the first white space, and the text after that character. -/
def splitAtBlank (s : List Char) : List Char × List Char :=
  (s.takeWhile (!isBlank ·), (s.dropWhile (!isBlank ·)).drop 1)

/-! ### Lines -/

/-- A line without the carriage return at its end. -/
def dropReturn (line : List Char) : List Char :=
  if line.getLast? = some '\r' then line.dropLast else line

/-- The lines of a text, each ended by a line feed or a carriage return and a line feed.
What follows the last line feed is a line of its own, unless it is empty. -/
def lines (s : List Char) : List (List Char) :=
  let parts := s.splitOn '\n'
  let ended := parts.dropLast.map dropReturn
  match parts.getLast? with
  | none | some [] => ended
  | some rest => ended ++ [rest]

/-- The number of line feeds. -/
def lineFeeds (s : List Char) : Nat := s.count '\n'

/-! ### Texts inside texts -/

/-- The rest of the text after a beginning, if the text begins so. -/
def dropLead? : List Char → List Char → Option (List Char)
  | [], s => some s
  | _ :: _, [] => none
  | p :: ps, c :: cs => if p = c then dropLead? ps cs else none

theorem length_dropLead? {p s r : List Char} (h : dropLead? p s = some r) :
    p.length + r.length = s.length := by
  induction p generalizing s with
  | nil => simp [dropLead?] at h; simp [h]
  | cons a p ih =>
    cases s with
    | nil => simp [dropLead?] at h
    | cons b s =>
      simp only [dropLead?] at h
      split at h
      · have := ih h
        simp only [List.length_cons]
        omega
      · simp at h

theorem length_dropWhile_le {α : Type} (p : α → Bool) (s : List α) :
    (s.dropWhile p).length ≤ s.length :=
  (List.dropWhile_suffix p).length_le

/-- The text before an ending, if the text ends so. -/
def dropTail? (tail s : List Char) : Option (List Char) :=
  (dropLead? tail.reverse s.reverse).map List.reverse

/-- The text before the first occurrence of a separator and the text after it. -/
def splitOnce (sep : List Char) : List Char → Option (List Char × List Char)
  | [] => if sep.isEmpty then some ([], []) else none
  | c :: cs =>
    match dropLead? sep (c :: cs) with
    | some rest => some ([], rest)
    | none => (splitOnce sep cs).map fun (before, after) => (c :: before, after)

/-- Whether a text occurs inside another one. -/
def occursIn (needle haystack : List Char) : Bool := (splitOnce needle haystack).isSome

/-! ### On strings -/

/-- A string that is empty or white space only. -/
def isBlankString (s : String) : Bool := isAllBlank s.toList

/-- The words of a string. -/
def wordsOf (s : String) : List String := (words s.toList).map String.ofList

/-- The strings one after the other, with a separator between two of them. -/
def joinWith (sep : String) (parts : List String) : String := sep.intercalate parts

end ClassScribe.Text
