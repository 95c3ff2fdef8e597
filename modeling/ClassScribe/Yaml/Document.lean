import ClassScribe.Yaml.Node

/-! # Documents

A text holds at most one document here. Its anchors are numbered in the order of their nodes, each by
the number of different names before it, and every alias stands for the number that its name has at
that point. -/

namespace ClassScribe.Yaml

/-! ### Directives -/

/-- The directives at the start. -/
def leadingDirectives : List Token → List Directive × List Token
  | .directive d :: rest =>
    let (ds, r) := leadingDirectives rest
    (d :: ds, r)
  | ts => ([], ts)

/-- The handles that directives define. No handle may be defined twice, and only the versions 1.1 and
1.2 of the format may be asked for, once. -/
def handles? (versioned : Bool) (handles : List (String × String)) :
    List Directive → Option (List (String × String))
  | [] => some (handles ++ standardHandles)
  | .version major minor :: rest =>
    if !versioned && major = 1 && (minor = 1 || minor = 2) then handles? true handles rest else none
  | .tag handle lead :: rest =>
    if (handles.lookup handle).isSome then none
    else handles? versioned (handles ++ [(handle, lead)]) rest

/-! ### One document -/

/-- The root of the document in a row of tokens, if there is one. -/
def root? (ts : List Token) : Option (Option (Node String)) := do
  let (directives, rest) := leadingDirectives ts
  let handles ← handles? false [] directives
  let (root, rest) ← match rest with
    | .documentStart :: rest =>
      if rest.isEmpty || isNext [.documentStart, .documentEnd] rest then some (some .empty, rest)
      else (readNode handles true false rest).map fun (n, r) => (some n, r.val)
    | [] => if directives.isEmpty then some (none, []) else none
    | rest =>
      if directives.isEmpty then
        (readNode handles true false rest).map fun (n, r) => (some n, r.val)
      else none
  if (rest.dropWhile (· == .documentEnd)).isEmpty then some root else none

/-! ### Anchors -/

/-- The names of anchors with their numbers, and how many names there are. -/
structure Names where
  numbers : List (String × Nat)
  count : Nat

namespace Names

/-- No names. -/
def none : Names := ⟨[], 0⟩

/-- Numbers an anchor. -/
def add (names : Names) (name : String) : Names :=
  ⟨(name, names.count) :: names.numbers,
    if (names.numbers.lookup name).isSome then names.count else names.count + 1⟩

end Names

/-- The number of an anchor, if a node has one, and the names after it. -/
def numbered (names : Names) : Option String → Option Nat × Names
  | Option.none => (Option.none, names)
  | some name => (some names.count, names.add name)

mutual
/-- A node with numbers for its anchors and aliases. -/
def link? (names : Names) : Node String → Option (Node Nat × Names)
  | .scalar anchor tag text plain =>
    let (anchor, names) := numbered names anchor
    some (.scalar anchor tag text plain, names)
  | .sequence anchor tag items => do
    let (anchor, names) := numbered names anchor
    let (items, names) ← linkItems? names items
    pure (.sequence anchor tag items, names)
  | .mapping anchor tag pairs => do
    let (anchor, names) := numbered names anchor
    let (pairs, names) ← linkPairs? names pairs
    pure (.mapping anchor tag pairs, names)
  | .alias name => (names.numbers.lookup name).map fun n => (.alias n, names)
/-- Nodes with numbers for their anchors and aliases. -/
def linkItems? (names : Names) : List (Node String) → Option (List (Node Nat) × Names)
  | [] => some ([], names)
  | n :: rest => do
    let (n, names) ← link? names n
    let (more, names) ← linkItems? names rest
    pure (n :: more, names)
/-- Pairs with numbers for their anchors and aliases. -/
def linkPairs? (names : Names) :
    List (Node String × Node String) → Option (List (Node Nat × Node Nat) × Names)
  | [] => some ([], names)
  | (k, v) :: rest => do
    let (k, names) ← link? names k
    let (v, names) ← link? names v
    let (more, names) ← linkPairs? names rest
    pure ((k, v) :: more, names)
end

/-- The node itself with its number, if it has an anchor. -/
def ownAnchor (anchor : Option Nat) (n : Node Nat) : List (Nat × Node Nat) :=
  match anchor with
  | some number => [(number, n)]
  | none => []

mutual
/-- The nodes with anchors, in their order. -/
def anchored : Node Nat → List (Nat × Node Nat)
  | .scalar anchor tag text plain => ownAnchor anchor (.scalar anchor tag text plain)
  | .sequence anchor tag items => ownAnchor anchor (.sequence anchor tag items) ++ anchoredItems items
  | .mapping anchor tag pairs => ownAnchor anchor (.mapping anchor tag pairs) ++ anchoredPairs pairs
  | .alias _ => []
/-- The nodes with anchors among nodes. -/
def anchoredItems : List (Node Nat) → List (Nat × Node Nat)
  | [] => []
  | n :: rest => anchored n ++ anchoredItems rest
/-- The nodes with anchors among pairs. -/
def anchoredPairs : List (Node Nat × Node Nat) → List (Nat × Node Nat)
  | [] => []
  | (k, v) :: rest => anchored k ++ anchored v ++ anchoredPairs rest
end

/-- A document: its root, and the nodes with anchors, the last one first. -/
structure Document where
  root : Node Nat
  anchors : List (Nat × Node Nat)

/-- The document of a text, if the text holds one. -/
def Document.parse? (text : List Char) : Option (Option Document) := do
  match ← root? (← tokens? text) with
  | none => pure none
  | some n =>
    let (root, _) ← link? .none n
    pure (some ⟨root, (anchored root).reverse⟩)

/-! ### Following aliases -/

/-- A node of a document. -/
structure Place where
  document : Document
  node : Node Nat

namespace Place

/-- The root of a document. -/
def root (d : Document) : Place := ⟨d, d.root⟩

/-- The node that an alias stands for. -/
def target (d : Document) : Node Nat → Node Nat
  | .alias number => (d.anchors.lookup number).getD .empty
  | n => n

/-- The place that is meant by a place: an alias stands for the node of its anchor. -/
def follow (p : Place) : Place := { p with node := target p.document p.node }

end Place
end ClassScribe.Yaml
