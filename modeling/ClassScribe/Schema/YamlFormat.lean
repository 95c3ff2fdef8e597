import ClassScribe.Schema.Decoding
import ClassScribe.Yaml.Atom

/-! # Specifications in YAML

How the nodes of a YAML document are taken. A scalar is a text wherever a text is asked for, whatever
it looks like; only the value of a parameter constant asks what a scalar means. -/

namespace ClassScribe.Yaml
open Place

/-- The places of nodes. -/
def placesOf (d : Document) (nodes : List (Node Nat)) : List Place := nodes.map (⟨d, ·⟩)

/-- The text of a scalar. -/
def text? (p : Place) : Option String :=
  match p.follow.node with
  | .scalar _ _ text _ => some text
  | _ => none

/-- A text, or nothing for a null. -/
def optionalText? (p : Place) : Option (Option String) :=
  match p.follow.node with
  | .scalar _ tag text plain =>
    if !plain then some (some text)
    else
      match tag with
      | none => some (if text = "" || isNull text then none else some text)
      | some t =>
        if t ≠ standardTag "null" then some (some text)
        else if isNull text then some none
        else none
  | _ => none

/-- The items of a sequence; nothing at all is an empty one. -/
def list? (p : Place) : Option (List Place) :=
  match p.follow.node with
  | .sequence _ _ items => some (placesOf p.document items)
  | .scalar _ _ "" true => some []
  | _ => none

/-- A record. -/
def record? (p : Place) : Option (Record Place) :=
  match p.follow.node with
  | .mapping _ _ pairs =>
    (pairs.mapM fun (k, v) => (text? ⟨p.document, k⟩).map (·, (⟨p.document, v⟩ : Place))).map .named
  | .sequence _ _ items => some (.listed (placesOf p.document items))
  | _ => none

/-- A kind of class: its name, or its name as the tag of a null. -/
def kind? (p : Place) : Option ClassKind :=
  match p.follow.node with
  | .scalar _ tag text plain =>
    match variant? tag with
    | none => ClassKind.ofName? text
    | some name => if plain && (text = "" || isNull text) then ClassKind.ofName? name else none
  | _ => none

/-! ### Values of parameter constants -/

/-- Whether everything in a node has a meaning; `depth` collections may still be opened. -/
def isMeaningful (d : Document) : Nat → Node Nat → Bool
  | depth, n =>
    match target d n with
    | .scalar _ tag text plain => (atom? tag text plain).isSome
    | .sequence _ tag items =>
      match depth with
      | 0 => false
      | depth + 1 => (variant? tag).isNone && items.all (isMeaningful d depth)
    | .mapping _ tag pairs =>
      match depth with
      | 0 => false
      | depth + 1 =>
        (variant? tag).isNone &&
          pairs.all fun (k, v) => isMeaningful d depth k && isMeaningful d depth v
    | .alias _ => false

/-- The meaning of a node that is a scalar. -/
def atomAt? (d : Document) (n : Node Nat) : Option Atom :=
  match target d n with
  | .scalar _ tag text plain => atom? tag text plain
  | _ => none

/-- Whether a key names the field of a reference, by its name or by its place among the fields; other
keys have to be texts or natural numbers. -/
def isReferenceKey? (d : Document) (k : Node Nat) : Option Bool :=
  match atomAt? d k with
  | some (.text name) => some (name == "ref")
  | some (.number (some (.int i))) => if 0 ≤ i then some (i == 0) else none
  | _ => none

/-- The reference that a mapping stands for: the text under its one key for it. -/
def reference? (d : Document) (pairs : List (Node Nat × Node Nat)) : Option String := do
  let keys ← pairs.mapM fun (k, v) => (isReferenceKey? d k).map (·, v)
  match keys.filter (·.1) with
  | [(_, v)] =>
    match atomAt? d v with
    | some (.text source) => some source
    | _ => none
  | _ => none

/-- The value of a parameter constant. -/
def paramValue? (depth : Nat) (p : Place) : Option ParamValue :=
  match p.follow.node with
  | .scalar _ tag text plain =>
    match atom? tag text plain with
    | some (.number n) => n.map .number
    | some (.text s) => some (.text s)
    | _ => none
  | .mapping _ _ pairs =>
    if isMeaningful p.document depth p.follow.node then
      (reference? p.document pairs).map .reference
    else none
  | _ => none

/-- The number of collections that may stand inside each other. -/
def maxDepth : Nat := 128

/-- How YAML documents are taken. A value of a parameter constant stands inside three records and
lists. -/
def format : Format Place :=
  ⟨text?, optionalText?, list?, record?, kind?, paramValue? (maxDepth - 3)⟩

/-- The documents of YAML texts. -/
def reader : DocumentReader where
  Node := Place
  format := format
  read? content :=
    if content.toList.all isAllowed then
      match Document.parse? content.toList with
      | some (some d) => some (.root d)
      | _ => none
    else none

end ClassScribe.Yaml
