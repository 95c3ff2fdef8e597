/-! # Parts of texts

What readers of nested formats return: a part of a text and the rest behind it, with a proof that the
rest is shorter, by which the readers end. -/

namespace ClassScribe.Text

/-- A part of a text that has been read, and the shorter rest. -/
abbrev Part (α : Type) (s : List Char) := Option (α × { r : List Char // r.length < s.length })

/-- Keeps a part and a rest only if something has been read. -/
def Part.of? {α : Type} (s : List Char) (x : α) (rest : List Char) : Part α s :=
  if h : rest.length < s.length then some (x, ⟨rest, h⟩) else none

end ClassScribe.Text
