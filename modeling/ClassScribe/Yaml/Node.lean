import ClassScribe.Yaml.Token

/-! # Nodes

The tree of a YAML document. An alias stays a leaf of it: the readers of the tree follow it to the
node with its anchor, so a node may be reached from inside itself. -/

namespace ClassScribe.Yaml

/-- A node; `α` names the anchors. -/
inductive Node (α : Type)
  | scalar (anchor : Option α) (tag : Option String) (text : String) (plain : Bool)
  | sequence (anchor : Option α) (tag : Option String) (items : List (Node α))
  | mapping (anchor : Option α) (tag : Option String) (pairs : List (Node α × Node α))
  | alias (anchor : α)
  deriving Inhabited

/-- A node where nothing is written. -/
def Node.empty {α : Type} : Node α := .scalar none none "" true

/-! ### Tags -/

/-- What a handle stands for, if no directive says otherwise. -/
def standardHandles : List (String × String) := [("!", "!"), ("!!", "tag:yaml.org,2002:")]

/-- The tag of a handle and a suffix. -/
def tagOf? (handles : List (String × String)) (handle suffix : String) : Option String :=
  if handle = "" then some suffix else ((handles.lookup handle).map (· ++ suffix))

/-! ### Reading nodes

Every reader returns what follows the tokens that it has read. -/

/-- A rest that is shorter. -/
abbrev Shorter (ts : List Token) := { r : List Token // r.length < ts.length }

/-- A rest that is not longer. -/
abbrev NotLonger (ts : List Token) := { r : List Token // r.length ≤ ts.length }

/-- Whether the content of a node starts with a token: in a block collection, or where the dash of a
sequence may stand at the indentation of its key. -/
def startsContent (block indentless : Bool) : Token → Bool
  | .scalar _ _ | .flowSequence | .flowMapping => true
  | .blockSequence | .blockMapping => block
  | .item => indentless
  | _ => false

/-- Whether the next token is one of some tokens. -/
def isNext (stops : List Token) (ts : List Token) : Bool := ts.head?.any stops.contains

mutual
/-- Reads a node. -/
def readNode (handles : List (String × String)) (block indentless : Bool) (ts : List Token) :
    Option (Node String × Shorter ts) :=
  match ts with
  | .alias name :: rest => some (.alias name, ⟨rest, by simp⟩)
  | .anchor name :: .tag handle suffix :: rest => do
    let tag ← tagOf? handles handle suffix
    let (n, ⟨r, h⟩) ← readMarked handles block indentless (some name) (some tag) rest
    pure (n, ⟨r, by simp; omega⟩)
  | .anchor name :: rest => do
    let (n, ⟨r, h⟩) ← readMarked handles block indentless (some name) none rest
    pure (n, ⟨r, by simp; omega⟩)
  | .tag handle suffix :: .anchor name :: rest => do
    let tag ← tagOf? handles handle suffix
    let (n, ⟨r, h⟩) ← readMarked handles block indentless (some name) (some tag) rest
    pure (n, ⟨r, by simp; omega⟩)
  | .tag handle suffix :: rest => do
    let tag ← tagOf? handles handle suffix
    let (n, ⟨r, h⟩) ← readMarked handles block indentless none (some tag) rest
    pure (n, ⟨r, by simp; omega⟩)
  | ts => readContent handles block indentless none none ts
termination_by (ts.length, 2)
decreasing_by all_goals (simp [Prod.lex_def]; try omega)
/-- Reads what follows an anchor or a tag; there may be nothing. -/
def readMarked (handles : List (String × String)) (block indentless : Bool)
    (anchor tag : Option String) (ts : List Token) : Option (Node String × NotLonger ts) :=
  if ts.head?.any (startsContent block indentless) then do
    let (n, ⟨r, h⟩) ← readContent handles block indentless anchor tag ts
    pure (n, ⟨r, by omega⟩)
  else some (.scalar anchor tag "" true, ⟨ts, by omega⟩)
termination_by (ts.length, 1)
decreasing_by simp [Prod.lex_def]
/-- Reads the content of a node. -/
def readContent (handles : List (String × String)) (block indentless : Bool)
    (anchor tag : Option String) (ts : List Token) : Option (Node String × Shorter ts) :=
  match ts with
  | .scalar text plain :: rest =>
    some (.scalar anchor (tag.filter (· != "!")) text plain, ⟨rest, by simp⟩)
  | .flowSequence :: rest => do
    let (items, ⟨r, h⟩) ← readFlowItems handles true rest
    pure (.sequence anchor tag items, ⟨r, by simp; omega⟩)
  | .flowMapping :: rest => do
    let (pairs, ⟨r, h⟩) ← readFlowPairs handles true rest
    pure (.mapping anchor tag pairs, ⟨r, by simp; omega⟩)
  | .blockSequence :: rest =>
    if block then do
      let (items, ⟨r, h⟩) ← readBlockItems handles rest
      pure (.sequence anchor tag items, ⟨r, by simp; omega⟩)
    else none
  | .blockMapping :: rest =>
    if block then do
      let (pairs, ⟨r, h⟩) ← readBlockPairs handles rest
      pure (.mapping anchor tag pairs, ⟨r, by simp; omega⟩)
    else none
  | .item :: rest =>
    if indentless then do
      let (n, ⟨r, h⟩) ← readOr handles true false [.item, .key, .value, .blockEnd] rest
      let (items, ⟨r2, h2⟩) ← readIndentless handles r
      pure (.sequence anchor tag (n :: items), ⟨r2, by simp; omega⟩)
    else none
  | _ => none
termination_by (ts.length, 0)
decreasing_by all_goals (simp [Prod.lex_def]; try omega)
/-- Reads a node, or nothing before one of some tokens. -/
def readOr (handles : List (String × String)) (block indentless : Bool) (stops : List Token)
    (ts : List Token) : Option (Node String × NotLonger ts) :=
  if isNext stops ts then some (.empty, ⟨ts, by omega⟩)
  else do
    let (n, ⟨r, h⟩) ← readNode handles block indentless ts
    pure (n, ⟨r, by omega⟩)
termination_by (ts.length, 3)
decreasing_by simp [Prod.lex_def]
/-- Reads the further items of a block sequence that is not indented. -/
def readIndentless (handles : List (String × String)) (ts : List Token) :
    Option (List (Node String) × NotLonger ts) :=
  match ts with
  | .item :: rest => do
    let (n, ⟨r, h⟩) ← readOr handles true false [.item, .key, .value, .blockEnd] rest
    let (items, ⟨r2, h2⟩) ← readIndentless handles r
    pure (n :: items, ⟨r2, by simp; omega⟩)
  | ts => some ([], ⟨ts, by omega⟩)
termination_by (ts.length, 4)
decreasing_by all_goals (simp [Prod.lex_def]; try omega)
/-- Reads the items of a block sequence. -/
def readBlockItems (handles : List (String × String)) (ts : List Token) :
    Option (List (Node String) × Shorter ts) :=
  match ts with
  | .item :: rest => do
    let (n, ⟨r, h⟩) ← readOr handles true false [.item, .blockEnd] rest
    let (items, ⟨r2, h2⟩) ← readBlockItems handles r
    pure (n :: items, ⟨r2, by simp; omega⟩)
  | .blockEnd :: rest => some ([], ⟨rest, by simp⟩)
  | _ => none
termination_by (ts.length, 4)
decreasing_by all_goals (simp [Prod.lex_def]; try omega)
/-- Reads the keys and values of a block mapping. -/
def readBlockPairs (handles : List (String × String)) (ts : List Token) :
    Option (List (Node String × Node String) × Shorter ts) :=
  match ts with
  | .key :: rest => do
    let (k, ⟨r, h⟩) ← readOr handles true true [.key, .value, .blockEnd] rest
    let (v, ⟨r2, h2⟩) ← readValue handles true [.key, .value, .blockEnd] r
    let (pairs, ⟨r3, h3⟩) ← readBlockPairs handles r2
    pure ((k, v) :: pairs, ⟨r3, by simp; omega⟩)
  | .blockEnd :: rest => some ([], ⟨rest, by simp⟩)
  | _ => none
termination_by (ts.length, 5)
decreasing_by all_goals (simp [Prod.lex_def]; try omega)
/-- Reads the value after a key, which may be missing. -/
def readValue (handles : List (String × String)) (block : Bool) (stops : List Token)
    (ts : List Token) : Option (Node String × NotLonger ts) :=
  match ts with
  | .value :: rest => do
    let (v, ⟨r, h⟩) ← readOr handles block block stops rest
    pure (v, ⟨r, by simp; omega⟩)
  | ts => some (.empty, ⟨ts, by omega⟩)
termination_by (ts.length, 4)
decreasing_by all_goals (simp [Prod.lex_def]; try omega)
/-- Reads the items of a flow sequence, with a comma before all but the first one. -/
def readFlowItems (handles : List (String × String)) (first : Bool) (ts : List Token) :
    Option (List (Node String) × Shorter ts) :=
  match ts with
  | .flowSequenceEnd :: rest => some ([], ⟨rest, by simp⟩)
  | .comma :: rest =>
    if first then none
    else do
      let (items, ⟨r, h⟩) ← readFlowItem handles rest
      pure (items, ⟨r, by simp; omega⟩)
  | ts => if first then readFlowItem handles ts else none
termination_by (ts.length, 5)
decreasing_by all_goals (simp [Prod.lex_def]; try omega)
/-- Reads an item of a flow sequence and those that follow. An item may be a single key with its
value. -/
def readFlowItem (handles : List (String × String)) (ts : List Token) :
    Option (List (Node String) × Shorter ts) :=
  match ts with
  | .flowSequenceEnd :: rest => some ([], ⟨rest, by simp⟩)
  | .key :: rest => do
    let (k, ⟨r, h⟩) ← readSingleKey handles rest
    let (v, ⟨r2, h2⟩) ← readValue handles false [.comma, .flowSequenceEnd] r
    let (items, ⟨r3, h3⟩) ← readFlowItems handles false r2
    pure (.mapping none none [(k, v)] :: items, ⟨r3, by simp; omega⟩)
  | ts => do
    let (n, ⟨r, h⟩) ← readNode handles false false ts
    let (items, ⟨r2, h2⟩) ← readFlowItems handles false r
    pure (n :: items, ⟨r2, by omega⟩)
termination_by (ts.length, 4)
decreasing_by all_goals (simp [Prod.lex_def]; try omega)
/-- Reads the key of a single pair in a flow sequence. In place of an empty key the token that shows
its end is dropped. -/
def readSingleKey (handles : List (String × String)) (ts : List Token) :
    Option (Node String × NotLonger ts) :=
  if isNext [.value, .comma, .flowSequenceEnd] ts then
    some (.empty, ⟨ts.tail, by simp⟩)
  else do
    let (n, ⟨r, h⟩) ← readNode handles false false ts
    pure (n, ⟨r, by omega⟩)
termination_by (ts.length, 3)
decreasing_by simp [Prod.lex_def]
/-- Reads the pairs of a flow mapping, with a comma before all but the first one. -/
def readFlowPairs (handles : List (String × String)) (first : Bool) (ts : List Token) :
    Option (List (Node String × Node String) × Shorter ts) :=
  match ts with
  | .flowMappingEnd :: rest => some ([], ⟨rest, by simp⟩)
  | .comma :: rest =>
    if first then none
    else do
      let (pairs, ⟨r, h⟩) ← readFlowPair handles rest
      pure (pairs, ⟨r, by simp; omega⟩)
  | ts => if first then readFlowPair handles ts else none
termination_by (ts.length, 5)
decreasing_by all_goals (simp [Prod.lex_def]; try omega)
/-- Reads a pair of a flow mapping and those that follow. A node that is no key has no value. -/
def readFlowPair (handles : List (String × String)) (ts : List Token) :
    Option (List (Node String × Node String) × Shorter ts) :=
  match ts with
  | .flowMappingEnd :: rest => some ([], ⟨rest, by simp⟩)
  | .key :: rest => do
    let (k, ⟨r, h⟩) ← readOr handles false false [.value, .comma, .flowMappingEnd] rest
    let (v, ⟨r2, h2⟩) ← readValue handles false [.comma, .flowMappingEnd] r
    let (pairs, ⟨r3, h3⟩) ← readFlowPairs handles false r2
    pure ((k, v) :: pairs, ⟨r3, by simp; omega⟩)
  | ts => do
    let (n, ⟨r, h⟩) ← readNode handles false false ts
    let (pairs, ⟨r2, h2⟩) ← readFlowPairs handles false r
    pure ((n, .empty) :: pairs, ⟨r2, by omega⟩)
termination_by (ts.length, 4)
decreasing_by all_goals (simp [Prod.lex_def]; try omega)
end

end ClassScribe.Yaml
