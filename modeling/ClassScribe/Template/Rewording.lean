import ClassScribe.Template.Composition
import ClassScribe.Template.Parser

/-! # Other words in templates

A template whose texts are exchanged for others, or left out, while all else stays. So are what has been
read of a template, and what is composed of templates. -/

namespace ClassScribe

namespace Template

/-- The text that stands in the place of a text, if there is one. -/
abbrev Wording := String → Option String

/-- Texts without their white space, and none in the place of a blank text. -/
def inked : Wording := fun s =>
  if (Text.ink s.toList).isEmpty then none else some (String.ofList (Text.ink s.toList))

/-! ### Elements -/

mutual
/-- An element with other texts. -/
def rewordElement (word : Wording) : Element → List Element
  | .text s => (word s).toList.map .text
  | .choice branches otherwise =>
    [.choice (rewordBranches word branches) (rewordElements word otherwise)]
  | .loop target items body => [.loop target items (rewordElements word body)]
  | .output e => [.output e]
  | .super => [.super]
  | .assign name value => [.assign name value]
  | .slot name => [.slot name]
/-- Elements with other texts. -/
def rewordElements (word : Wording) : List Element → List Element
  | [] => []
  | e :: rest => rewordElement word e ++ rewordElements word rest
/-- Branches with other texts. -/
def rewordBranches (word : Wording) : List (Expr × List Element) → List (Expr × List Element)
  | [] => []
  | (condition, body) :: rest => (condition, rewordElements word body) :: rewordBranches word rest
end

end Template

/-! ### Templates -/

/-- A block with other texts. -/
def Block.reword (b : Block) (word : Template.Wording) : Block :=
  { b with body := Template.rewordElements word b.body }

namespace Template

/-- A template with other texts. -/
def reword (t : Template) (word : Wording) : Template :=
  { t with layout := rewordElements word t.layout, blocks := t.blocks.map (·.reword word) }

/-- A block of a composed template with other texts. -/
def ResolvedBlock.reword (b : ResolvedBlock) (word : Wording) : ResolvedBlock :=
  { b with body := rewordElements word b.body }

/-- A composed template with other texts. -/
def Resolved.reword (r : Resolved) (word : Wording) : Resolved :=
  { r with layout := rewordElements word r.layout, blocks := r.blocks.map (·.reword word) }

/-! ### Reading -/

/-- What is left of a part with other texts. -/
def Part.reword (word : Wording) : Part → List Part
  | .text s => (word (String.ofList s)).toList.map (.text ·.toList)
  | part => [part]

/-- A construct with other texts in its branches. -/
def Construct.reword (word : Wording) : Construct → Construct
  | .branch done condition => .branch (rewordBranches word done) condition
  | .otherwise branches => .otherwise (rewordBranches word branches)
  | .block name => .block name
  | .loop target items => .loop target items

/-- An open construct with other texts. -/
def Opened.reword (o : Opened) (word : Wording) : Opened :=
  { o with construct := Construct.reword word o.construct, before := rewordElements word o.before }

/-- What has been read of a template, with other texts. -/
def Progress.reword (p : Progress) (word : Wording) : Progress :=
  { p with
    blocks := p.blocks.map (·.reword word)
    opened := p.opened.map (·.reword word)
    elements := rewordElements word p.elements }

end Template
end ClassScribe
