import ClassScribe.Template.Spacing

/-! # Lines of comments

A line that holds nothing but a comment, and the places between two texts of a source where such a line
starts outside of tags. -/

namespace ClassScribe.Template

namespace Piece

/-- The tag that a piece is. -/
def tag? : Piece → Option Tag
  | .tag t => some t
  | .text _ => none

/-- The tags of a source, if it can be cut. -/
def tags (s : List Char) : List Tag :=
  match cut s with
  | .ok pieces => pieces.filterMap tag?
  | .error _ => []

/-- Whether a source ends outside of tags and raw sections: it can be cut, but for a stray end tag of a raw
section, which nothing behind it can mend. -/
def EndsOutside (s : List Char) : Prop :=
  ∀ line fault, cut s = .error (line, fault) → fault = .strayEndraw

end Piece

/-- A text that can stand in a comment: it does not close the comment, and asks for nothing on its sides. -/
structure IsComment (c : List Char) : Prop where
  closes : ¬"#\x7d".toList <:+: c
  left : ∀ m ∈ c.head?, m ≠ '-' ∧ m ≠ '+'
  right : ∀ m ∈ c.getLast?, m ≠ '-' ∧ m ≠ '+'

/-- A line with a comment behind its indentation. -/
def commentLine (indentation comment : String) : String := indentation ++ "\x7b#" ++ comment ++ "#\x7d\n"

/-- Two parts of a source with a place for a line between them: the first part is empty or ends a line outside
of tags and raw sections, and the tags around the place trim no text there. -/
structure HasLinePlace (above below : List Char) : Prop where
  line : above = [] ∨ above.getLast? = some '\n'
  outside : Piece.EndsOutside above
  above : ∀ t ∈ (Piece.tags above).getLast?, t.right ≠ .trim
  below : ∀ t ∈ (Piece.tags below).head?, t.left ≠ .trim

end ClassScribe.Template
