import ClassScribe.Expr.Filter
import ClassScribe.Expr.Source
import ClassScribe.Template.Inheritance
import ClassScribe.Template.Outline
import ClassScribe.Template.Slots

/-! # Writing templates

A template is written as one text: the body of every block stands inline at the slot of the block, and
texts stand in raw sections. This takes templates that are trees, in which every block has one slot
that can be reached from the layout. -/

namespace ClassScribe.Template

/-! ### Bodies in their slots -/

mutual
/-- The node of an element, with a node for every slot. -/
def inlineElement (slot : String → Node) : Element → Node
  | .text s => .text s
  | .output e => .output e
  | .super => .super
  | .choice branches otherwise =>
    .choice (inlineBranches slot branches) (inlineElements slot otherwise)
  | .loop target items body => .loop target items (inlineElements slot body)
  | .assign name value => .assign name value
  | .slot name => slot name
/-- The nodes of elements. -/
def inlineElements (slot : String → Node) : List Element → List Node
  | [] => []
  | e :: rest => inlineElement slot e :: inlineElements slot rest
/-- The nodes of branches. -/
def inlineBranches (slot : String → Node) : List (Expr × List Element) → List (Expr × List Node)
  | [] => []
  | (condition, body) :: rest => (condition, inlineElements slot body) :: inlineBranches slot rest
end

/-- The blocks whose names are not in a list. -/
def closedBlocks (t : Template) (active : List String) : List Block :=
  t.blocks.filter fun b => !active.contains b.name

theorem closedBlocks_cons_lt {t : Template} {active : List String} {name : String} {b : Block}
    (hb : t.block? name = some b) (hn : active.contains name = false) :
    (t.closedBlocks (name :: active)).length < (t.closedBlocks active).length := by
  obtain rfl : b.name = name := by simpa using List.find?_some hb
  exact length_filter_cons_lt (List.mem_of_find?_eq_some hb) hn

/-- The node of a block inside of the blocks `active`. What is no tree gets empty blocks in places. -/
def blockNode (t : Template) (active : List String) (name : String) : Node :=
  if _hn : active.contains name = true then .block name false []
  else
    match _hb : t.block? name with
    | none => .block name false []
    | some b => .block name b.required (inlineElements (blockNode t (name :: active)) b.body)
termination_by (t.closedBlocks active).length
decreasing_by exact closedBlocks_cons_lt _hb (by simpa using _hn)

/-- A template as an outline, with every body at the slot of its block. -/
def outline (t : Template) : List Node := inlineElements (blockNode t []) t.layout

/-! ### Texts -/

/-- A statement between its delimiters. -/
def statementText (s : List Char) : List Char := "\x7b% ".toList ++ (s ++ " %\x7d".toList)

/-- An output between its delimiters. -/
def outputText (s : List Char) : List Char := "\x7b\x7b ".toList ++ (s ++ " \x7d\x7d".toList)

/-- A text in a raw section. -/
def rawText (s : List Char) : List Char :=
  "\x7b% raw %\x7d".toList ++ (s ++ "\x7b% endraw %\x7d".toList)

namespace Node

section
variable (write : Expr → List Char)

mutual
/-- The text of a node, where expressions are written in some way. -/
def source : Node → List Char
  | .text s => rawText s.toList
  | .output e => outputText (write e)
  | .super => outputText "super()".toList
  | .choice [] _ => []
  | .choice ((condition, body) :: more) otherwise =>
    statementText ("if ".toList ++ write condition) ++ (sources body ++ (branchSources more ++
      (if otherwise.isEmpty then [] else statementText "else".toList ++ sources otherwise) ++
        statementText "endif".toList))
  | .loop target items body =>
    statementText ("for ".toList ++ (target.toList ++ (" in ".toList ++ write items))) ++
      (sources body ++ statementText "endfor".toList)
  | .assign name value =>
    statementText ("set ".toList ++ (name.toList ++ (" = ".toList ++ write value)))
  | .block name required body =>
    statementText ("block ".toList ++ (name.toList ++ if required then " required".toList else [])) ++
      (sources body ++ statementText "endblock".toList)
/-- The text of nodes. -/
def sources : List Node → List Char
  | [] => []
  | n :: rest => source n ++ sources rest
/-- The text of further branches. -/
def branchSources : List (Expr × List Node) → List Char
  | [] => []
  | (condition, body) :: rest =>
    statementText ("elif ".toList ++ write condition) ++ (sources body ++ branchSources rest)
end

end

end Node

/-- The text of a template, where expressions are written in some way. -/
def source (write : Expr → List Char) (t : Template) : List Char :=
  (match t.parent with
    | none => []
    | some parent => statementText ("extends ".toList ++ ('"' :: (parent.toList ++ ['"'])))) ++
    Node.sources write t.outline

/-! ### Templates that can be written -/

/-- The texts that end a raw section: `endraw` between the delimiters of a statement, with white space
and markers around it. -/
inductive EndrawTag : List Char → Prop
  | tag {left right blank blank' : List Char} :
      left ∈ [[], ['-'], ['+']] → right ∈ [[], ['-'], ['+']] →
      (∀ c ∈ blank, Text.isBlank c = true) → (∀ c ∈ blank', Text.isBlank c = true) →
      EndrawTag ("\x7b%".toList ++ (left ++ (blank ++ ("endraw".toList ++
        (blank' ++ (right ++ "%\x7d".toList))))))

/-- Whether a text can stand in a raw section. -/
def HoldsNoEndraw (s : List Char) : Prop := ∀ l tag r, s = l ++ (tag ++ r) → ¬EndrawTag tag

/-- Whether a way to write expressions gives texts that spell their tokens. -/
def Spells (write : Expr → List Char) : Prop :=
  ∀ e : Expr, e.isWritable = true → Token.Spells (write e) e.tokens

/-- Whether an expression can be written and has known filters only. -/
def Expressible (e : Expr) : Prop :=
  e.isWritable = true ∧ ∀ name ∈ e.filterNames, Filter.isKnown name = true

mutual
/-- Whether an element can be written. -/
def elementIsWritable : Element → Prop
  | .text s => s ≠ "" ∧ HoldsNoEndraw s.toList
  | .output e => Expressible e
  | .choice branches otherwise =>
    branches ≠ [] ∧ branchesAreWritable branches ∧ areWritable otherwise
  | .loop target items body =>
    Text.isIdentifier target.toList = true ∧ Expressible items ∧ areWritable body
  | .assign name value => Text.isIdentifier name.toList = true ∧ Expressible value
  | .super | .slot _ => True
/-- Whether elements can be written. -/
def areWritable : List Element → Prop
  | [] => True
  | e :: rest => elementIsWritable e ∧ areWritable rest
/-- Whether branches can be written. -/
def branchesAreWritable : List (Expr × List Element) → Prop
  | [] => True
  | (condition, body) :: rest =>
    Expressible condition ∧ areWritable body ∧ branchesAreWritable rest
end

/-- Whether a slot of a block stands in the body of another one. -/
def Nests (t : Template) (outer inner : String) : Prop :=
  ∃ b, t.block? outer = some b ∧ inner ∈ slots b.body

/-- The blocks that the layout leads to, from slot to slot. -/
inductive Reaches (t : Template) : String → Prop
  | layout {name : String} : name ∈ slots t.layout → Reaches t name
  | body {outer inner : String} : Reaches t outer → t.Nests outer inner → Reaches t inner

/-- A template that can be written. It is a tree: its blocks have different names and one slot each, and
the layout leads to all of them. -/
structure WellFormed (t : Template) : Prop where
  parent : ∀ p ∈ t.parent, Text.isIdentifier p.toList = true
  names : ∀ b ∈ t.blocks, Text.isIdentifier b.name.toList = true
  distinct : (t.blocks.map (·.name)).Nodup
  slots : (slots t.layout ++ t.blocks.flatMap fun b => Template.slots b.body).Perm
    (t.blocks.map (·.name))
  reached : ∀ b ∈ t.blocks, t.Reaches b.name
  super : callsSuper t.layout = false
  layout : areWritable t.layout
  bodies : ∀ b ∈ t.blocks, areWritable b.body

end ClassScribe.Template
