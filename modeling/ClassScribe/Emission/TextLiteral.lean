import ClassScribe.Emission.EmittedMap

/-! # Text literals of a class source

What a text in single quotes means when the source is run. A backslash takes the character behind it with it: the two
are one sign of the literal, and stand for one character. -/

namespace ClassScribe.TextLiteral

/-- A character between the quotes of a literal, as it is or behind a backslash. -/
inductive Sign
  | plain (c : Char)
  | escaped (c : Char)
  deriving DecidableEq, Repr

/-- The signs of the text between two quotes. There are none if a backslash at its end takes no character with it. -/
def signs? : List Char → Option (List Sign)
  | [] => some []
  | ['\\'] => none
  | '\\' :: c :: rest => (signs? rest).map (.escaped c :: ·)
  | c :: rest => (signs? rest).map (.plain c :: ·)

/-- What letters behind a backslash stand for. -/
def control : List (Char × Char) :=
  [('b', '\x08'), ('f', '\x0c'), ('n', '\n'), ('r', '\r'), ('t', '\t'), ('v', '\x0b')]

/-- Whether a backslash and this character are only the start of an escape by a number, or go on in the next line. -/
def opensLonger (c : Char) : Bool := c.isDigit || c == 'u' || c == 'x' || EmittedMap.isLineTerminator c

/-- The character that a sign stands for. Longer escapes have no value of their own. -/
def Sign.value? : Sign → Option Char
  | .plain c => some c
  | .escaped c => if opensLonger c then none else some ((control.lookup c).getD c)

/-- A line feed or a carriage return. -/
def endsLine (c : Char) : Bool := c == '\n' || c == '\r'

/-- A text on one line. -/
def OneLine (s : List Char) : Prop := ∀ c ∈ s, endsLine c = false

instance (s : List Char) : Decidable (OneLine s) := List.decidableBAll (endsLine · = false) s

/-- A text between two quotes with these signs. No quote stands there without a backslash, so that the literal goes up
to its last character. -/
structure HasSigns (source : List Char) (signs : List Sign) : Prop where
  quoted : ∃ inside, source = '\'' :: (inside ++ ['\'']) ∧ signs? inside = some signs
  closed : Sign.plain '\'' ∉ signs

/-- A literal: quotes at both ends, each backslash with a character behind it, no further quote without a backslash,
and no end of a line. -/
structure WellFormed (source : List Char) : Prop where
  hasSigns : ∃ signs, HasSigns source signs
  oneLine : OneLine source

end ClassScribe.TextLiteral
