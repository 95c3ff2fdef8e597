import ClassScribe.Number.Numeral
import ClassScribe.Yaml.Cursor

/-! # Scalars

The three ways to write a scalar: plain, between quotes, and as a block of lines. Each reader starts
at the first character and returns the text of the scalar with the cursor behind it. -/

namespace ClassScribe.Yaml

/-! ### Gaps

The white space between two words of a plain or quoted scalar. On one line it stays as it is; an end
of a line is folded to a space, unless further ones follow. -/

/-- White space inside a scalar: before the end of the line, or the ends of lines that it goes over.
A line is joined where its end is escaped; then no first end counts. -/
inductive Gap
  | spaces (text : List Char)
  | folded (first : Option Char) (more : List Char)
  deriving DecidableEq, Repr

namespace Gap

/-- No white space. -/
def empty : Gap := .spaces []

/-- Whether there is no white space. -/
def isEmpty (g : Gap) : Bool := g == empty

/-- Whether the gap goes over the end of a line. -/
def isFolded : Gap → Bool
  | .spaces _ => false
  | .folded _ _ => true

/-- The gap with a further space or tab. -/
def addSpace (g : Gap) (c : Char) : Gap :=
  match g with
  | .spaces text => .spaces (text ++ [c])
  | .folded first more => .folded first more

/-- The gap with a further end of a line. -/
def addBreak (g : Gap) (b : Char) : Gap :=
  match g with
  | .spaces _ => .folded (some b) []
  | .folded first more => .folded first (more ++ [b])

/-- What the gap stands for. -/
def text : Gap → List Char
  | .spaces text => text
  | .folded (some '\n') [] => [' ']
  | .folded (some '\n') more => more
  | .folded (some b) more => b :: more
  | .folded none more => more

end Gap

/-! ### Plain scalars -/

/-- A scalar that has been read, and whether its white space went on to another line. -/
structure PlainScalar where
  text : List Char
  folded : Bool
  next : Cursor
  deriving Repr

/-- A character that may not follow a colon inside a plain scalar of a flow collection. -/
def isFlowIndicator (c : Char) : Bool :=
  c == ',' || c == '?' || c == '[' || c == ']' || c == '\x7b' || c == '\x7d'

/-- A character that ends a plain scalar in a flow collection. -/
def endsFlowScalar (c : Char) : Bool :=
  c == ',' || c == '[' || c == ']' || c == '\x7b' || c == '\x7d'

/-- Whether a plain scalar ends before a character that starts a word: the line is not indented
enough, it is a marker of a document, or a comment starts. -/
def endsBeforeWord (flow : Bool) (indent : Nat) (c : Cursor) : Bool :=
  (!flow && c.column < indent) || (c.column == 0 && isMarker c.rest) || c.rest.head? == some '#'

/-- Reads a plain scalar: `text` has been read (reversed), and `gap` after it. -/
def readPlain (flow : Bool) (indent : Nat) (text : List Char) (gap : Gap) (c : Cursor) :
    Option PlainScalar :=
  let done : PlainScalar := ⟨text.reverse, gap.isFolded, c⟩
  match _h : c.rest with
  | [] => some done
  | x :: rest =>
    if isGap x then
      if gap.isFolded && c.column < indent && x = '\t' then none
      else readPlain flow indent text (gap.addSpace x) ⟨c.mark.skip 1, rest⟩
    else
      match _hb : c.readBreak? with
      | some (b, next) => readPlain flow indent text (gap.addBreak b) next
      | none =>
        if !gap.isEmpty && endsBeforeWord flow indent c then some done
        else if flow && x = ':' && rest.head?.any isFlowIndicator then none
        else if (x = ':' && isApart rest) || (flow && endsFlowScalar x) then some done
        else readPlain flow indent (x :: (gap.text.reverse ++ text)) .empty ⟨c.mark.skip 1, rest⟩
termination_by c.rest.length
decreasing_by
  · simp [_h]
  · exact Cursor.readBreak?_length _hb
  · simp [_h]

/-! ### Quoted scalars -/

/-- The character of an escape of one letter. -/
def shortEscape? : Char → Option Char
  | '0' => some '\x00'
  | 'a' => some '\x07'
  | 'b' => some '\x08'
  | 't' | '\t' => some '\t'
  | 'n' => some '\n'
  | 'v' => some '\x0b'
  | 'f' => some '\x0c'
  | 'r' => some '\r'
  | 'e' => some '\x1b'
  | ' ' => some ' '
  | '"' => some '"'
  | '/' => some '/'
  | '\\' => some '\\'
  | 'N' => some '\u0085'
  | '_' => some '\u00a0'
  | 'L' => some '\u2028'
  | 'P' => some '\u2029'
  | _ => none

/-- The number of digits after the letter of a numeric escape. -/
def escapeDigits? : Char → Option Nat
  | 'x' => some 2
  | 'u' => some 4
  | 'U' => some 8
  | _ => none

/-- The character of an escape, from what follows the backslash, and how many characters the escape
takes after it. -/
def escape? : List Char → Option (Char × Nat)
  | [] => none
  | letter :: rest =>
    match escapeDigits? letter with
    | none => (shortEscape? letter).map (·, 1)
    | some count => do
      let n ← Numeral.value? 16 (rest.take count)
      if (rest.take count).length = count ∧ n.isValidChar then some (Char.ofNat n, count + 1)
      else none

/-- Reads a scalar between double quotes, or single ones, behind the opening quote: `text` has been
read (reversed), and `gap` after it. -/
def readQuoted (double : Bool) (text : List Char) (gap : Gap) (c : Cursor) :
    Option (List Char × Cursor) :=
  match _h : c.rest with
  | [] => none
  | x :: rest =>
    if isGap x then readQuoted double text (gap.addSpace x) ⟨c.mark.skip 1, rest⟩
    else
      match _hb : c.readBreak? with
      | some (b, next) => readQuoted double text (gap.addBreak b) next
      | none =>
        let joined := gap.text.reverse ++ text
        if c.column = 0 && isMarker c.rest then none
        else if !double && x = '\'' && rest.head? = some '\'' then
          readQuoted double ('\'' :: joined) .empty ⟨c.mark.skip 2, rest.drop 1⟩
        else if x = (if double then '"' else '\'') then
          some (joined.reverse, ⟨c.mark.skip 1, rest⟩)
        else if double && x = '\\' then
          match _hr : (⟨c.mark.skip 1, rest⟩ : Cursor).readBreak? with
          | some (_, next) => readQuoted double joined (.folded none []) next
          | none =>
            match escape? rest with
            | none => none
            | some (e, count) =>
              readQuoted double (e :: joined) .empty ⟨c.mark.skip (count + 1), rest.drop count⟩
        else readQuoted double (x :: joined) .empty ⟨c.mark.skip 1, rest⟩
termination_by c.rest.length
decreasing_by
  · simp [_h]
  · exact Cursor.readBreak?_length _hb
  · simp only [_h, List.length_drop, List.length_cons]
    omega
  · have := Cursor.readBreak?_length _hr
    simp only [_h, List.length_cons] at this ⊢
    omega
  · simp only [_h, List.length_drop, List.length_cons]
    omega
  · simp [_h]

/-! ### Block scalars -/

/-- What becomes of the ends of lines after the last line of a block. -/
inductive Chomping
  | strip
  | clip
  | keep
  deriving DecidableEq, Repr

/-- The first line of a block scalar. -/
structure BlockHeader where
  literal : Bool
  chomping : Chomping
  /-- The indentation, if it is given. -/
  increment : Option Nat
  deriving Repr

/-- The way of chomping of an indicator. -/
def chompingOf? : Char → Option Chomping
  | '+' => some .keep
  | '-' => some .strip
  | _ => none

/-- The value of an indentation indicator. -/
def incrementOf? (c : Char) : Option Nat :=
  if '1' ≤ c ∧ c ≤ '9' then some (c.toNat - 48) else none

/-- The indicators after the first character of a block scalar, each at most once, and their number. -/
def readIndicators (literal : Bool) (s : List Char) : BlockHeader × Nat :=
  match s with
  | [] => (⟨literal, .clip, none⟩, 0)
  | a :: rest =>
    match chompingOf? a, incrementOf? a with
    | some chomping, _ =>
      match rest.head?.bind incrementOf? with
      | some n => (⟨literal, chomping, some n⟩, 2)
      | none => (⟨literal, chomping, none⟩, 1)
    | none, some n =>
      match rest.head?.bind chompingOf? with
      | some chomping => (⟨literal, chomping, some n⟩, 2)
      | none => (⟨literal, .clip, some n⟩, 1)
    | none, none => (⟨literal, .clip, none⟩, 0)

/-- The spaces before a line, up to the indentation if it is known. -/
def skipIndent (indent : Option Nat) (c : Cursor) : Cursor :=
  let spaces := (c.rest.takeWhile (· == ' ')).length
  c.skip (match indent with
    | none => spaces
    | some n => min spaces (n - c.column))

/-- Empty lines: their ends, the widest indentation, and the cursor at the line that follows. -/
structure EmptyLines where
  breaks : List Char
  widest : Nat
  next : Cursor
  deriving Repr

/-- Reads the empty lines before a line of a block. A tab may not stand in the indentation. -/
def readEmptyLines (indent : Option Nat) (breaks : List Char) (widest : Nat) (c : Cursor) :
    Option EmptyLines :=
  let d := skipIndent indent c
  let widest := max widest d.column
  if d.rest.head? = some '\t' && indent.all (d.column < ·) then none
  else
    match _h : d.readBreak? with
    | none => some ⟨breaks, widest, d⟩
    | some (b, next) => readEmptyLines indent (breaks ++ [b]) widest next
termination_by c.rest.length
decreasing_by
  have := Cursor.readBreak?_length _h
  have := Cursor.skip_length c
  simp only [d, skipIndent] at *
  grind

theorem skipIndent_length_le (indent : Option Nat) (c : Cursor) :
    (skipIndent indent c).rest.length ≤ c.rest.length := by
  simp [skipIndent, Cursor.skip_length]

theorem readEmptyLines_length_le {indent : Option Nat} {breaks : List Char} {widest : Nat}
    {c : Cursor} {e : EmptyLines} (h : readEmptyLines indent breaks widest c = some e) :
    e.next.rest.length ≤ c.rest.length := by
  fun_induction readEmptyLines indent breaks widest c with
  | case1 => simp at h
  | case2 _ _ c d =>
    obtain rfl := Option.some.inj h
    exact skipIndent_length_le indent c
  | case3 _ _ c d _ _ _ _ hb ih =>
    have := ih h
    have := Cursor.readBreak?_length hb
    have := skipIndent_length_le indent c
    simp only [d] at *
    omega

/-- Reads the lines of a block: `text` has been read, then the end `last` of its last line and
`empty` lines; `spaced` tells whether that line starts with white space. -/
def readLines (literal : Bool) (indent : Nat) (text : List Char) (last : List Char) (spaced : Bool)
    (empty : List Char) (c : Cursor) : Option (List Char × List Char × List Char × Cursor) :=
  match _h : c.rest with
  | [] => some (text, last, empty, c)
  | x :: rest =>
    if c.column ≠ indent then some (text, last, empty, c)
    else
      let glue :=
        if !literal && last = ['\n'] && !spaced && !isGap x then
          if empty.isEmpty then [' '] else []
        else last
      let line := rest.takeWhile (!isBreak ·)
      let text := text ++ glue ++ empty ++ x :: line
      let d : Cursor := ⟨c.mark.skip (line.length + 1), rest.drop line.length⟩
      match _he : readEmptyLines (some indent) [] 0 d.pastBreak.2 with
      | none => none
      | some e => readLines literal indent text d.pastBreak.1 (isGap x) e.breaks e.next
termination_by c.rest.length
decreasing_by
  have := readEmptyLines_length_le _he
  have := Cursor.pastBreak_length_le d
  simp only [d, List.length_drop] at *
  simp [_h]
  omega

/-- Reads a block scalar behind its first character. `parent` is the indentation of the collection
that it stands in, one less than none at the top. -/
def readBlock? (literal : Bool) (parent : Int) (c : Cursor) : Option (List Char × Cursor) := do
  let (header, count) := readIndicators literal c.rest
  let c ← (c.skip count).endLine?
  let given := header.increment.map fun n => if 0 ≤ parent then parent.toNat + n else n
  let e ← readEmptyLines given [] 0 c
  let indent := given.getD (max (max e.widest (parent + 1).toNat) 1)
  let (text, last, empty, c) ← readLines header.literal indent [] [] false e.breaks e.next
  let ending := match header.chomping with
    | .strip => []
    | .clip => last
    | .keep => last ++ empty
  pure (text ++ ending, c)

end ClassScribe.Yaml
