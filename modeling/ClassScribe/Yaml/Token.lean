import ClassScribe.Yaml.Property
import ClassScribe.Yaml.Scalar

/-! # Tokens

A YAML text as tokens. Indentation becomes tokens for the start and the end of block collections.
That a scalar is a key shows only at the colon after it, so the place of its token is kept, and the
tokens for the key and for the start of its mapping are put in there. -/

namespace ClassScribe.Yaml

/-- A token. -/
inductive Token
  | directive (value : Directive)
  | documentStart
  | documentEnd
  | blockSequence
  | blockMapping
  | blockEnd
  | flowSequence
  | flowSequenceEnd
  | flowMapping
  | flowMappingEnd
  | item
  | comma
  | key
  | value
  | alias (name : String)
  | anchor (name : String)
  | tag (handle suffix : String)
  | scalar (text : String) (plain : Bool)
  deriving DecidableEq, Repr

/-- Where a key may have started: the number of tokens before it, and its place. A key that starts
its line at the indentation of the collection is required: a colon has to follow. -/
structure Candidate where
  required : Bool
  number : Nat
  mark : Mark
  deriving Repr

/-- The state between two tokens. -/
structure Lexer where
  cursor : Cursor
  /-- The tokens, the last one first. -/
  tokens : List Token
  /-- The column of the innermost block collection, and of those around it. -/
  indent : Int
  indents : List Int
  /-- The candidate of the innermost flow collection, or of the block around all of them. -/
  candidate : Option Candidate
  /-- The candidates around it, one for each open flow collection. -/
  outer : List (Option Candidate)
  /-- Whether a key may start here. -/
  keyAllowed : Bool
  deriving Repr

namespace Lexer

/-- The start of a text. -/
def start (text : List Char) : Lexer := ⟨.start text, [], -1, [], none, [], true⟩

/-- Whether a flow collection is open. -/
def inFlow (l : Lexer) : Bool := !l.outer.isEmpty

/-- Adds a token. -/
def push (l : Lexer) (t : Token) : Lexer := { l with tokens := t :: l.tokens }

/-- Puts in a token behind the first `number` ones. -/
def insertAt (l : Lexer) (number : Nat) (t : Token) : Lexer :=
  { l with tokens := l.tokens.insertIdx (l.tokens.length - number) t }

/-- Adds a token of a single character. -/
def pushIndicator (l : Lexer) (t : Token) : Lexer :=
  { l with tokens := t :: l.tokens, cursor := l.cursor.skip 1 }

/-! ### Candidates for keys -/

/-- The greatest number of characters of a key. -/
def maxKeyLength : Nat := 1024

/-- A candidate that is still one at a later place, which is on the same line and not too far. -/
def refresh (now : Mark) : Option Candidate → Option (Option Candidate)
  | none => some none
  | some c =>
    if c.mark.line < now.line || c.mark.index + maxKeyLength < now.index then
      if c.required then none else some none
    else some (some c)

/-- Drops the candidates that are none any more. -/
def dropStale? (l : Lexer) : Option Lexer := do
  let candidate ← refresh l.cursor.mark l.candidate
  let outer ← l.outer.mapM (refresh l.cursor.mark)
  pure { l with candidate, outer }

/-- Drops the innermost candidate. -/
def dropCandidate? (l : Lexer) : Option Lexer :=
  if l.candidate.any (·.required) then none else some { l with candidate := none }

/-- Keeps this place as a candidate, if a key may start here. -/
def saveCandidate? (l : Lexer) : Option Lexer :=
  if l.keyAllowed then do
    let required := !l.inFlow && l.indent == l.cursor.column
    let l ← l.dropCandidate?
    pure { l with candidate := some ⟨required, l.tokens.length, l.cursor.mark⟩ }
  else some l

/-! ### Indentation -/

/-- Starts a block collection at a column that is further in. Its token goes behind the first
`number` ones. -/
def indentTo (l : Lexer) (column number : Nat) (t : Token) : Lexer :=
  if !l.inFlow && l.indent < column then
    { l.insertAt number t with indent := column, indents := l.indent :: l.indents }
  else l

/-- Ends the block collections that are further in than a column. -/
def endBlocks (column indent : Int) (tokens : List Token) :
    List Int → Int × List Int × List Token
  | [] => (indent, [], tokens)
  | next :: rest =>
    if column < indent then endBlocks column next (.blockEnd :: tokens) rest
    else (indent, next :: rest, tokens)

/-- Ends the block collections that are further in than a column. -/
def dedentTo (l : Lexer) (column : Int) : Lexer :=
  if l.inFlow then l
  else
    let (indent, indents, tokens) := endBlocks column l.indent l.tokens l.indents
    { l with indent, indents, tokens }

/-! ### White space and comments -/

/-- Goes on to the next token. At the start of a line in a block, a tab is no white space. Behind the
end of a line a key may start. -/
def skipIdle (flow allowed : Bool) (c : Cursor) : Cursor × Bool :=
  let line := if c.column = 0 && c.rest.head? = some '\ufeff' then c.skip 1 else c
  let word := line.skipWhile fun x => x = ' ' || ((flow || !allowed) && x = '\t')
  let ending := if word.rest.head? = some '#' then word.skipLine else word
  match _h : ending.readBreak? with
  | some (_, next) => skipIdle flow (allowed || !flow) next
  | none => (ending, allowed)
termination_by c.rest.length
decreasing_by
  have := Cursor.readBreak?_length _h
  have := Cursor.skip_length c 1
  have := line.skipWhile_length_le fun x => x = ' ' || ((flow || !allowed) && x = '\t')
  have := word.skipWhile_length_le (!isBreak ·)
  simp only [ending, word, line, Cursor.skipLine] at *
  grind

/-! ### Tokens -/

/-- Starts a line anew for a directive or a marker. -/
def startLine? (l : Lexer) : Option Lexer := do
  let l ← (l.dedentTo (-1)).dropCandidate?
  pure { l with keyAllowed := false }

/-- Opens a flow collection. -/
def openFlow? (l : Lexer) (t : Token) : Option Lexer := do
  let l ← l.saveCandidate?
  let l := { l with candidate := none, outer := l.candidate :: l.outer, keyAllowed := true }
  pure (l.pushIndicator t)

/-- Closes a flow collection. -/
def closeFlow? (l : Lexer) (t : Token) : Option Lexer := do
  let l ← l.dropCandidate?
  let l := match l.outer with
    | [] => l
    | candidate :: outer => { l with candidate, outer }
  pure ({ l with keyAllowed := false }.pushIndicator t)

/-- The comma between the items of a flow collection. -/
def comma? (l : Lexer) : Option Lexer := do
  let l ← l.dropCandidate?
  pure ({ l with keyAllowed := true }.pushIndicator .comma)

/-- Starts a block collection here, for an indicator that needs one. -/
def indentHere? (l : Lexer) (t : Token) : Option Lexer :=
  if l.inFlow then some l
  else if l.keyAllowed then some (l.indentTo l.cursor.column l.tokens.length t)
  else none

/-- The dash of an item of a block sequence. -/
def item? (l : Lexer) : Option Lexer := do
  let l ← l.indentHere? .blockSequence
  let l ← l.dropCandidate?
  pure ({ l with keyAllowed := true }.pushIndicator .item)

/-- The question mark before a key. -/
def key? (l : Lexer) : Option Lexer := do
  let l ← l.indentHere? .blockMapping
  let l ← l.dropCandidate?
  pure ({ l with keyAllowed := !l.inFlow }.pushIndicator .key)

/-- The colon before a value. -/
def value? (l : Lexer) : Option Lexer :=
  match l.candidate with
  | some c =>
    let l := l.insertAt c.number .key
    let l := l.indentTo c.mark.column c.number .blockMapping
    some ({ l with candidate := none, keyAllowed := false }.pushIndicator .value)
  | none => do
    let l ← l.indentHere? .blockMapping
    pure ({ l with keyAllowed := !l.inFlow }.pushIndicator .value)

/-- A token that may start a key, with the cursor behind it. -/
def content? (l : Lexer) (read : Cursor → Option (Token × Cursor)) : Option Lexer := do
  let l ← l.saveCandidate?
  let (t, cursor) ← read l.cursor
  pure { l with keyAllowed := false, tokens := t :: l.tokens, cursor }

/-- A block scalar. -/
def block? (l : Lexer) (literal : Bool) : Option Lexer := do
  let l ← l.dropCandidate?
  let (text, cursor) ← readBlock? literal l.indent (l.cursor.skip 1)
  pure { l with
    keyAllowed := true, tokens := .scalar (String.ofList text) false :: l.tokens, cursor }

/-- A quoted scalar. -/
def quoted? (l : Lexer) (double : Bool) : Option Lexer :=
  l.content? fun c => do
    let (text, c) ← readQuoted double [] .empty (c.skip 1)
    pure (.scalar (String.ofList text) false, c)

/-- A plain scalar. If it goes on over the end of a line, a key may start behind it. -/
def plain? (l : Lexer) : Option Lexer := do
  let l ← l.saveCandidate?
  let s ← readPlain l.inFlow (l.indent + 1).toNat [] .empty l.cursor
  pure { l with
    keyAllowed := s.folded, tokens := .scalar (String.ofList s.text) true :: l.tokens,
    cursor := s.next }

/-- A character that starts something else than a plain scalar. -/
def isIndicator (c : Char) : Bool :=
  c == '-' || c == '?' || c == ':' || c == ',' || c == '[' || c == ']' || c == '\x7b' ||
    c == '\x7d' || c == '#' || c == '&' || c == '*' || c == '!' || c == '|' || c == '>' ||
    c == '\'' || c == '"' || c == '%' || c == '@' || c == '\x60'

/-- Whether a plain scalar starts with a character before a rest. -/
def startsPlain (flow : Bool) (c : Char) (rest : List Char) : Bool :=
  !(isGap c || isBreak c || isIndicator c) ||
    (c == '-' && !rest.head?.any isGap) ||
    (!flow && (c == '?' || c == ':') && !isApart rest)

/-- The token that starts at the cursor with a character before a rest. -/
def token? (l : Lexer) (c : Char) (rest : List Char) : Option Lexer :=
  let flow := l.inFlow
  if l.cursor.column = 0 && c = '%' then do
    let l ← l.startLine?
    let (directive, cursor) ← readDirective? l.cursor
    pure { l with tokens := .directive directive :: l.tokens, cursor }
  else if l.cursor.column = 0 && isMarker (c :: rest) then do
    let l ← l.startLine?
    let t := if c = '-' then Token.documentStart else .documentEnd
    pure { l with tokens := t :: l.tokens, cursor := l.cursor.skip 3 }
  else if c = '[' then l.openFlow? .flowSequence
  else if c = '\x7b' then l.openFlow? .flowMapping
  else if c = ']' then l.closeFlow? .flowSequenceEnd
  else if c = '\x7d' then l.closeFlow? .flowMappingEnd
  else if c = ',' then l.comma?
  else if c = '-' && isApart rest then l.item?
  else if c = '?' && (flow || isApart rest) then l.key?
  else if c = ':' && (flow || isApart rest) then l.value?
  else if c = '*' then l.content? fun c => (readName? c).map fun (n, c) => (.alias n, c)
  else if c = '&' then l.content? fun c => (readName? c).map fun (n, c) => (.anchor n, c)
  else if c = '!' then
    l.content? fun c => (readTag? flow c).map fun (handle, suffix, c) => (.tag handle suffix, c)
  else if c = '|' && !flow then l.block? true
  else if c = '>' && !flow then l.block? false
  else if c = '\'' then l.quoted? false
  else if c = '"' then l.quoted? true
  else if startsPlain flow c rest then l.plain?
  else none

/-- Reads on to the end of the text. Every token takes a character, so as many steps as there are
characters, and one for the end, are enough. -/
def run : Nat → Lexer → Option (List Token)
  | 0, _ => none
  | steps + 1, l => do
    let (cursor, keyAllowed) := skipIdle l.inFlow l.keyAllowed l.cursor
    let l ← { l with cursor, keyAllowed }.dropStale?
    let l := l.dedentTo l.cursor.column
    match l.cursor.rest with
    | [] =>
      let l ← l.startLine?
      pure l.tokens.reverse
    | c :: rest => run steps (← l.token? c rest)

end Lexer

/-- The tokens of a text. -/
def tokens? (text : List Char) : Option (List Token) := (Lexer.start text).run (text.length + 1)

end ClassScribe.Yaml
