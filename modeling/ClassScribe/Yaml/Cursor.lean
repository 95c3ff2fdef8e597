import ClassScribe.Text.Blank

/-! # Places in YAML texts

The characters that matter to the grammar, and the place of a reader in a text: the characters that
are left, with the line and the column of the first of them. -/

namespace ClassScribe.Yaml

/-! ### Characters -/

/-- A character that a YAML text may hold. -/
def isAllowed (c : Char) : Bool :=
  c == '\t' || c == '\n' || c == '\r' || (0x20 ≤ c.toNat && c.toNat ≤ 0x7e) || c == '\u0085' ||
    (0xa0 ≤ c.toNat && c.toNat ≤ 0xfffd) || 0x10000 ≤ c.toNat

/-- A space or a tab. -/
def isGap (c : Char) : Bool := c == ' ' || c == '\t'

/-- A character that ends a line. -/
def isBreak (c : Char) : Bool :=
  c == '\n' || c == '\r' || c == '\u0085' || c == '\u2028' || c == '\u2029'

/-- A character that can stand in a word of the grammar. -/
def isWord (c : Char) : Bool := c.isAlphanum || c == '_' || c == '-'

/-- Whether a text starts with white space, or is empty. -/
def isApart : List Char → Bool
  | [] => true
  | c :: _ => isGap c || isBreak c

/-- Whether a text starts with the marker of a document's start or end. -/
def isMarker : List Char → Bool
  | '-' :: '-' :: '-' :: rest => isApart rest
  | '.' :: '.' :: '.' :: rest => isApart rest
  | _ => false

/-! ### Marks -/

/-- How many characters, lines, and characters of the line are behind. -/
structure Mark where
  index : Nat
  line : Nat
  column : Nat
  deriving DecidableEq, Repr

namespace Mark

/-- The start of a text. -/
def start : Mark := ⟨0, 0, 0⟩

/-- The mark after characters of the same line. -/
def skip (m : Mark) (count : Nat) : Mark := ⟨m.index + count, m.line, m.column + count⟩

/-- The mark after the end of a line that takes `count` characters. -/
def newLine (m : Mark) (count : Nat) : Mark := ⟨m.index + count, m.line + 1, 0⟩

end Mark

/-! ### Cursors -/

/-- The rest of a text, and where it starts. -/
structure Cursor where
  mark : Mark
  rest : List Char
  deriving Repr

namespace Cursor

/-- The start of a text. -/
def start (text : List Char) : Cursor := ⟨.start, text⟩

/-- The column. -/
def column (c : Cursor) : Nat := c.mark.column

/-- Goes on by characters of the same line. -/
def skip (c : Cursor) (count : Nat) : Cursor := ⟨c.mark.skip count, c.rest.drop count⟩

/-- Goes on over characters of a class that holds no ends of lines. -/
def skipWhile (c : Cursor) (p : Char → Bool) : Cursor := c.skip (c.rest.takeWhile p).length

/-- The end of a line as a scalar holds it, and the cursor behind it, if there is one. -/
def readBreak? (c : Cursor) : Option (Char × Cursor) :=
  match c.rest with
  | '\r' :: '\n' :: rest => some ('\n', ⟨c.mark.newLine 2, rest⟩)
  | b :: rest =>
    if isBreak b then
      some (if b = '\u2028' ∨ b = '\u2029' then b else '\n', ⟨c.mark.newLine 1, rest⟩)
    else none
  | [] => none

theorem readBreak?_length {c d : Cursor} {b : Char} (h : c.readBreak? = some (b, d)) :
    d.rest.length < c.rest.length := by
  simp only [readBreak?] at h
  split at h
  · rename_i hc
    obtain ⟨_, rfl⟩ := Prod.mk.inj (Option.some.inj h)
    simp only [hc, List.length_cons]
    omega
  · rename_i hc
    split at h
    · obtain ⟨_, rfl⟩ := Prod.mk.inj (Option.some.inj h)
      simp [hc]
    · simp at h
  · simp at h

/-- The end of a line, if there is one, and the cursor behind it. -/
def pastBreak (c : Cursor) : List Char × Cursor :=
  match c.readBreak? with
  | some (b, next) => ([b], next)
  | none => ([], c)

theorem pastBreak_length_le (c : Cursor) : c.pastBreak.2.rest.length ≤ c.rest.length := by
  unfold pastBreak
  split
  · rename_i h
    exact Nat.le_of_lt (readBreak?_length h)
  · exact Nat.le_refl _

theorem skip_length (c : Cursor) (count : Nat) :
    (c.skip count).rest.length = c.rest.length - count := by
  simp [skip]

theorem skipWhile_length_le (c : Cursor) (p : Char → Bool) :
    (c.skipWhile p).rest.length ≤ c.rest.length := by
  simp [skipWhile, skip_length]

/-- Goes on over spaces and tabs. -/
def skipGaps (c : Cursor) : Cursor := c.skipWhile isGap

/-- Goes on to the end of the line. -/
def skipLine (c : Cursor) : Cursor := c.skipWhile (!isBreak ·)

/-- Goes on over what may stand at the end of a line: white space, a comment, and the line's end. -/
def endLine? (c : Cursor) : Option Cursor :=
  let c := c.skipGaps
  let c := if c.rest.head? = some '#' then c.skipLine else c
  if isApart c.rest then some c.pastBreak.2 else none

end Cursor
end ClassScribe.Yaml
