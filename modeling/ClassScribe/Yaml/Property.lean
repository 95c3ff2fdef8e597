import ClassScribe.Number.Numeral
import ClassScribe.Yaml.Cursor

/-! # Anchors, tags and directives

What stands before the content of a node, and before a document. -/

namespace ClassScribe.Yaml

/-! ### Anchors -/

/-- Reads a word. -/
def readWord (c : Cursor) : List Char × Cursor := (c.rest.takeWhile isWord, c.skipWhile isWord)

/-- A character that may follow a name directly. -/
def endsName (c : Char) : Bool :=
  c == '?' || c == ':' || c == ',' || c == ']' || c == '\x7d' || c == '%' || c == '@' || c == '\x60'

/-- Reads the name of an anchor or an alias, from its indicator on. -/
def readName? (c : Cursor) : Option (String × Cursor) :=
  let (name, c) := readWord (c.skip 1)
  if !name.isEmpty && (isApart c.rest || c.rest.head?.any endsName) then
    some (String.ofList name, c)
  else none

/-! ### Tags -/

/-- A character of a tag. The wide class has the indicators of flow collections too. -/
def isUri (wide : Bool) (c : Char) : Bool :=
  isWord c || c == ';' || c == '/' || c == '?' || c == ':' || c == '@' || c == '&' || c == '=' ||
    c == '+' || c == '$' || c == '.' || c == '!' || c == '~' || c == '*' || c == '\'' || c == '(' ||
    c == ')' || c == '%' || (wide && (c == ',' || c == '[' || c == ']'))

/-- The bytes of a tag, in which two digits after a percent sign stand for one. -/
def octets? : List Char → Option (List UInt8)
  | [] => some []
  | '%' :: a :: b :: rest => do
    let a ← Numeral.digit? a
    let b ← Numeral.digit? b
    let more ← octets? rest
    pure (UInt8.ofNat (a * 16 + b) :: more)
  | c :: rest =>
    if c = '%' then none
    else (octets? rest).map (UInt8.ofNat c.toNat :: ·)

/-- Reads characters of a tag. -/
def readUri? (wide : Bool) (c : Cursor) : Option (String × Cursor) := do
  let bytes ← octets? (c.rest.takeWhile (isUri wide))
  let text ← String.fromUTF8? ⟨bytes.toArray⟩
  pure (text, c.skipWhile (isUri wide))

/-- Reads a tag or a part of one that may not be empty. -/
def readUri1? (wide : Bool) (c : Cursor) : Option (String × Cursor) :=
  (readUri? wide c).filter (·.1 != "")

/-- Reads a handle: a word between exclamation marks, of which the second one may be missing. -/
def readHandle? (c : Cursor) : Option (String × Bool × Cursor) :=
  match c.rest with
  | '!' :: _ =>
    let (word, d) := readWord (c.skip 1)
    match d.rest with
    | '!' :: _ => some (String.ofList ('!' :: word ++ ['!']), true, d.skip 1)
    | _ => some (String.ofList ('!' :: word), false, d)
  | _ => none

/-- Reads the parts of a tag: its handle and what follows it. A tag of one exclamation mark has no
handle. -/
def readTagParts? (c : Cursor) : Option (String × String × Cursor) :=
  match c.rest with
  | '!' :: '<' :: _ => do
    let (suffix, c) ← readUri1? true (c.skip 2)
    if c.rest.head? = some '>' then some ("", suffix, c.skip 1) else none
  | _ => do
    let (handle, closed, d) ← readHandle? c
    if closed then
      let (suffix, d) ← readUri1? false d
      pure (handle, suffix, d)
    else
      let (suffix, d) ← readUri? false (c.skip 1)
      pure (if suffix = "" then ("", "!", d) else ("!", suffix, d))

/-- Reads a tag. In a flow collection a comma may follow it directly. -/
def readTag? (flow : Bool) (c : Cursor) : Option (String × String × Cursor) :=
  (readTagParts? c).filter fun (_, _, d) =>
    isApart d.rest || (flow && d.rest.head? == some ',')

/-! ### Directives -/

/-- What a directive says: the version of the format, or what a handle of tags stands for. -/
inductive Directive
  | version (major minor : Nat)
  | tag (handle lead : String)
  deriving DecidableEq, Repr

/-- Reads a number of at most nine digits. -/
def readDigits? (c : Cursor) : Option (Nat × Cursor) :=
  let digits := c.rest.takeWhile Char.isDigit
  if digits.isEmpty || 9 < digits.length then none
  else some (digits.foldl (fun n d => n * 10 + (d.toNat - 48)) 0, c.skip digits.length)

/-- Reads the value of a version directive. -/
def readVersion? (c : Cursor) : Option (Directive × Cursor) := do
  let (major, c) ← readDigits? c.skipGaps
  if c.rest.head? = some '.' then
    let (minor, c) ← readDigits? (c.skip 1)
    pure (.version major minor, c)
  else none

/-- Reads the value of a tag directive. -/
def readTagDirective? (c : Cursor) : Option (Directive × Cursor) := do
  let (handle, closed, c) ← readHandle? c.skipGaps
  if (closed || handle = "!") && c.rest.head?.any isGap then
    let (lead, c) ← readUri1? true c.skipGaps
    if isApart c.rest then some (.tag handle lead, c) else none
  else none

/-- Reads a directive, from its indicator to the end of its line. -/
def readDirective? (c : Cursor) : Option (Directive × Cursor) := do
  let (name, c) := readWord (c.skip 1)
  if !isApart c.rest then none
  else
    let (directive, c) ← match String.ofList name with
      | "YAML" => readVersion? c
      | "TAG" => readTagDirective? c
      | _ => none
    pure (directive, ← c.endLine?)

end ClassScribe.Yaml
