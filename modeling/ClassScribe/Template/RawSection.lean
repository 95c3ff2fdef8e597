import ClassScribe.Template.Source
import ClassScribe.Template.Spacing

/-! # Raw sections that keep their texts

A raw section whose tags ask with `+` to keep the texts around them, and what the options for white space
leave of these texts: the opening tag keeps the line end behind it, but on the end tag `+` does not count. -/

namespace ClassScribe.Template

/-- A raw section with a marker to keep on each side of its tags. -/
def keptRaw (s : String) : String := "\x7b%+ raw +%\x7d" ++ s ++ "\x7b%+ endraw +%\x7d"

/-- Whether no tag is opened in a text. -/
def HoldsNoOpening (s : List Char) : Prop :=
  ∀ c kind, Piece.opens? c = some kind → ¬['\x7b', c] <:+: s

namespace Spacing

/-- What is left of the text in a raw section with markers to keep. -/
def insideKept (options : Spacing) (s : List Char) : List Char :=
  if options.lstripBlocks then dropIndentation false s else s

/-- What is left of the text behind a raw section with markers to keep. -/
def behindKept (options : Spacing) (s : List Char) : List Char :=
  if options.trimBlocks then (dropLineEnd? s).getD s else s

/-- Whether nothing is taken off the text in a raw section with markers to keep: its last line is not mere
indentation behind another line. -/
def SparesInside (options : Spacing) (s : List Char) : Prop :=
  options.lstripBlocks = true →
    ∀ u i, s = u ++ '\n' :: i → (∀ c ∈ i, isIndentation c = true) → i = []

/-- Whether nothing is taken off the text behind a raw section with markers to keep: it does not start with a
line end. -/
def SparesBehind (options : Spacing) (s : List Char) : Prop :=
  options.trimBlocks = true → ¬"\n".toList <+: s ∧ ¬"\r\n".toList <+: s

end Spacing
end ClassScribe.Template
