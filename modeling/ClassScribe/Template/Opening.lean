import ClassScribe.Template.CommentLine

/-! # Openings of tags

The place in a source where a tag opens, and the line that a tag hands on to what is read of it. -/

namespace ClassScribe.Template

/-- The line that a part carries. -/
def Part.line? : Part → Option Nat
  | .text _ => none
  | .output _ line | .statement _ line => some line

/-- Parts without the texts. -/
def Part.dropTexts (parts : List Part) : List Part := parts.filter (·.line?.isSome)

/-- What the tags among pieces leave of themselves. -/
def Piece.tokens (pieces : List Piece) : List Part := (pieces.filterMap Piece.tag?).flatMap Spacing.tagParts

/-- Whether a tag of a kind opens in a source behind a text, and the text is cut into some pieces. -/
structure Piece.OpensAt (source above : List Char) (kind : TagKind) (before : List Piece) : Prop where
  cut : Piece.cut above = .ok before
  free : above.getLast? ≠ some '\x7b'
  opening : ∃ o body, Piece.opens? o = some kind ∧ source = above ++ '\x7b' :: o :: body

end ClassScribe.Template
