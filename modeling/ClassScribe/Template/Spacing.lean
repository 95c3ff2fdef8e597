import ClassScribe.Template.Piece

/-! # White space around tags

Lines that hold nothing but a statement or a comment need not leave a line in the output. The two
options, and the markers of the tags, decide how much white space of a text goes at the tag before
it and at the tag behind it. -/

namespace ClassScribe.Template

/-- The options for white space around statements and comments. -/
structure Spacing where
  /-- Drops the first line end after a tag. -/
  trimBlocks : Bool
  /-- Drops the blanks between the start of a line and a tag. -/
  lstripBlocks : Bool
  deriving DecidableEq, Repr

/-- Both options are on. -/
def Spacing.standard : Spacing := ⟨true, true⟩

/-- What the grammar of statements sees: texts, and the insides of tags with their lines. -/
inductive Part
  | text (s : List Char)
  | output (source : List Char) (line : Nat)
  | statement (source : List Char) (line : Nat)
  deriving DecidableEq, Repr

namespace Spacing

/-- The text behind a line end, if it starts with one. -/
def dropLineEnd? : List Char → Option (List Char)
  | '\r' :: '\n' :: rest => some rest
  | '\n' :: rest => some rest
  | _ => none

/-- A text behind a tag, and whether it starts a line then. -/
def after (options : Spacing) (tag : Tag) (s : List Char) : List Char × Bool :=
  if tag.right = .trim then (Text.trimStart s, false)
  else if options.trimBlocks && tag.kind != .output && tag.right != .keep then
    match dropLineEnd? s with
    | some rest => (rest, true)
    | none => (s, false)
  else (s, false)

/-- A space or a tab. -/
def isIndentation (c : Char) : Bool := c == ' ' || c == '\t'

/-- The text without the blanks of its last line, if that line holds nothing else and starts inside
the text or with it. -/
def dropIndentation (atLineStart : Bool) (s : List Char) : List Char :=
  let tail := s.reverse.takeWhile (· != '\n')
  if (atLineStart || s.contains '\n') && tail.all isIndentation then
    (s.reverse.dropWhile (· != '\n')).reverse
  else s

/-- A text before a tag. -/
def before (options : Spacing) (tag : Tag) (atLineStart : Bool) (s : List Char) : List Char :=
  if tag.left = .trim then Text.trimEnd s
  else if options.lstripBlocks && tag.kind != .output && tag.left != .keep then
    dropIndentation atLineStart s
  else s

/-- A text between two tags; without a tag before it, it starts the template. -/
def between (options : Spacing) (previous next : Option Tag) (s : List Char) : List Char :=
  let (s, atLineStart) :=
    match previous with
    | some tag => after options tag s
    | none => (s, true)
  match next with
  | some tag => before options tag atLineStart s
  | none => s

/-- The tag that the pieces start with. -/
def leadTag? : List Piece → Option Tag
  | .tag tag :: _ => some tag
  | _ => none

/-- What a tag leaves of itself. -/
def tagParts (tag : Tag) : List Part :=
  match tag.kind with
  | .output => [.output tag.inner tag.line]
  | .statement => [.statement tag.inner tag.line]
  | .comment => []

/-- What a text leaves of itself. -/
def textParts (s : List Char) : List Part := if s.isEmpty then [] else [.text s]

/-- The parts of pieces behind a tag, or at the start of the template. -/
def applyFrom (options : Spacing) (previous : Option Tag) : List Piece → List Part
  | [] => []
  | .tag tag :: rest => tagParts tag ++ applyFrom options (some tag) rest
  | .text s :: rest =>
    textParts (between options previous (leadTag? rest) s) ++ applyFrom options none rest

/-- The parts of a template. -/
def apply (options : Spacing) (pieces : List Piece) : List Part := applyFrom options none pieces

end Spacing
end ClassScribe.Template
