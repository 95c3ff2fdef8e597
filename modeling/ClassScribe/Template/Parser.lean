import ClassScribe.Template.Basic
import ClassScribe.Template.Error
import ClassScribe.Template.Spacing

/-! # Reading templates

The statements of a template are read from the front to the back with a stack of the constructs
that are open. A construct remembers what stood before it, so that closing it puts one element
behind that. The blocks are listed when they are opened and get their bodies when they are
closed. -/

namespace ClassScribe.Template

/-- A construct whose end has not been read. -/
inductive Construct
  /-- A block. -/
  | block (name : String)
  /-- A loop. -/
  | loop (target : String) (items : Expr)
  /-- A body behind a condition, with the branches before it. -/
  | branch (done : List (Expr × List Element)) (condition : Expr)
  /-- The body that is taken if no condition holds. -/
  | otherwise (branches : List (Expr × List Element))
  deriving Repr

/-- An open construct, the line that opened it, and the elements before it. -/
structure Opened where
  construct : Construct
  line : Nat
  before : List Element
  deriving Repr

/-- What has been read of a template: the innermost open construct comes first, and `elements` are
the ones inside it. -/
structure Progress where
  parent : Option String
  blocks : List Block
  opened : List Opened
  elements : List Element
  deriving Repr

namespace Progress

/-- Nothing has been read. -/
def start : Progress := ⟨none, [], [], []⟩

/-- A fault at a line. -/
abbrev Result (α : Type) := Except (Nat × SyntaxFault) α

/-- An expression whose filters are all known. -/
def expression (source : List Char) (line : Nat) : Result Expr :=
  match Expr.parse source with
  | .error cause => .error (line, .expression cause)
  | .ok e =>
    match e.filterNames.find? (!Filter.isKnown ·) with
    | some name => .error (line, .unknownFilter name)
    | none => .ok e

/-- Appends an element. -/
def push (p : Progress) (e : Element) : Progress := { p with elements := p.elements ++ [e] }

/-- Opens a construct. -/
def enter (p : Progress) (construct : Construct) (line : Nat) : Progress :=
  { p with opened := ⟨construct, line, p.elements⟩ :: p.opened, elements := [] }

/-- Replaces the open constructs after the innermost one has been closed with an element. -/
def leave (p : Progress) (opened : List Opened) (before : List Element) (e : Element) : Progress :=
  { p with opened := opened, elements := before ++ [e] }

/-- Whether a block is open. -/
def insideBlock (p : Progress) : Bool :=
  p.opened.any fun o => match o.construct with
    | .block _ => true
    | _ => false

/-- Gives a block its body. -/
def setBody (name : String) (body : List Element) (blocks : List Block) : List Block :=
  blocks.map fun b => if b.name = name then { b with body := body } else b

/-- A text without quotes at its ends. -/
def dropQuotes (s : List Char) : List Char :=
  let isQuote (c : Char) := c == '"' || c == '\''
  Text.dropEndWhile isQuote (s.dropWhile isQuote)

/-! ### Statements that open or stand alone -/

/-- `extends name` -/
def readExtends (p : Progress) (rest : List Char) (line : Nat) : Result Progress :=
  if !p.opened.isEmpty then .error (line, .extendsInside)
  else if p.parent.isSome then .error (line, .secondParent)
  else
    match dropQuotes rest with
    | [] => .error (line, .emptyParent)
    | name => .ok { p with parent := some (String.ofList name) }

/-- Lists a block and opens it. -/
def openBlock (p : Progress) (name : String) (required : Bool) (line : Nat) : Result Progress :=
  if p.blocks.any (·.name == name) then .error (line, .duplicateBlock name)
  else .ok ({ p with blocks := p.blocks ++ [Block.mk name required []] }.enter (.block name) line)

/-- `block name`, or `block name required` -/
def readBlock (p : Progress) (rest : List Char) (line : Nat) : Result Progress :=
  match Text.words rest with
  | [] => .error (line, .blockName)
  | name :: more =>
    if !Text.isIdentifier name then .error (line, .blockName)
    else
      match more with
      | [] => openBlock p (String.ofList name) false line
      | word :: _ =>
        if word = "required".toList then openBlock p (String.ofList name) true line
        else .error (line, .afterBlockName (String.ofList word))

/-- `for target in items` -/
def readFor (p : Progress) (rest : List Char) (line : Nat) : Result Progress :=
  match Text.splitOnce " in ".toList rest with
  | none => .error (line, .loopShape)
  | some (target, items) =>
    let target := Text.trim target
    if !Text.isIdentifier target then .error (line, .loopTarget (String.ofList target))
    else do
      let items ← expression items line
      .ok (p.enter (.loop (String.ofList target) items) line)

/-- `if condition` -/
def readIf (p : Progress) (rest : List Char) (line : Nat) : Result Progress := do
  let condition ← expression rest line
  .ok (p.enter (.branch [] condition) line)

/-- `set name = value` -/
def readSet (p : Progress) (rest : List Char) (line : Nat) : Result Progress :=
  match Text.splitOnce ['='] rest with
  | none => .error (line, .assignShape)
  | some (name, value) =>
    let name := Text.trim name
    if !Text.isIdentifier name then .error (line, .assignTarget (String.ofList name))
    else do
      let value ← expression value line
      .ok (p.push (.assign (String.ofList name) value))

/-- A statement that does not close or continue the innermost construct. -/
def readOther (p : Progress) (keyword rest : List Char) (line : Nat) : Result Progress :=
  let word := String.ofList keyword
  if word = "extends" then readExtends p rest line
  else if word = "block" then readBlock p rest line
  else if word = "for" then readFor p rest line
  else if word = "if" then readIf p rest line
  else if word = "set" then readSet p rest line
  else if ["endblock", "endfor", "endif", "elif", "else"].contains word then
    .error (line, .unexpected word)
  else .error (line, .unknownStatement word)

/-! ### Statements that close or continue -/

/-- Reads a statement inside an open construct. What follows the keyword of an end tag counts only for
blocks. -/
def readInside (p : Progress) (o : Opened) (outer : List Opened) (keyword rest : List Char)
    (line : Nat) : Result Progress :=
  let word := String.ofList keyword
  match o.construct with
  | .block name =>
    if word = "endblock" then
      if !rest.isEmpty && String.ofList rest != name then
        .error (line, .endblockName (String.ofList rest) name)
      else
        .ok ({ p with blocks := setBody name p.elements p.blocks }.leave outer o.before (.slot name))
    else readOther p keyword rest line
  | .loop target items =>
    if word = "endfor" then .ok (p.leave outer o.before (.loop target items p.elements))
    else readOther p keyword rest line
  | .branch done condition =>
    let branches := done ++ [(condition, p.elements)]
    if word = "elif" then do
      let next ← expression rest line
      .ok { p with opened := { o with construct := .branch branches next } :: outer, elements := [] }
    else if word = "else" then
      .ok { p with opened := { o with construct := .otherwise branches } :: outer, elements := [] }
    else if word = "endif" then .ok (p.leave outer o.before (.choice branches []))
    else readOther p keyword rest line
  | .otherwise branches =>
    if word = "endif" then .ok (p.leave outer o.before (.choice branches p.elements))
    else readOther p keyword rest line

/-- Reads a statement. -/
def readStatement (p : Progress) (source : List Char) (line : Nat) : Result Progress :=
  let (keyword, rest) := Text.splitAtBlank source
  let rest := Text.trim rest
  match p.opened with
  | [] => readOther p keyword rest line
  | o :: outer => readInside p o outer keyword rest line

/-! ### Parts -/

/-- Reads an output: the body below, or an expression. -/
def readOutput (p : Progress) (source : List Char) (line : Nat) : Result Progress :=
  if source = "super()".toList then
    if p.insideBlock then .ok (p.push .super) else .error (line, .superOutsideBlock)
  else do
    let e ← expression source line
    .ok (p.push (.output e))

/-- Reads a part of a template. -/
def step (p : Progress) : Part → Result Progress
  | .text s => .ok (p.push (.text (String.ofList s)))
  | .output source line => readOutput p source line
  | .statement source line => readStatement p source line

/-- Reads the parts of a template one after the other. -/
def run (p : Progress) : List Part → Result Progress
  | [] => .ok p
  | part :: rest => do
    let p ← step p part
    run p rest

/-- The fault of a construct that is still open at the end. -/
def Construct.unclosed : Construct → SyntaxFault
  | .block name => .unclosedBlock name
  | .loop _ _ => .unclosed "endfor"
  | .branch _ _ => .unclosedIf
  | .otherwise _ => .unclosed "endif"

/-- The template that has been read, if no construct is open. -/
def finish (p : Progress) (name : String) : Result Template :=
  match p.opened with
  | [] => .ok ⟨name, p.parent, p.elements, p.blocks⟩
  | o :: _ => .error (o.line, Construct.unclosed o.construct)

end Progress

/-- The template of a source under options for white space. -/
def parseChars (options : Spacing) (name : String) (source : List Char) :
    Except (Nat × SyntaxFault) Template :=
  match Piece.cut source with
  | .error (line, fault) => .error (line, .cut fault)
  | .ok pieces => do
    let p ← Progress.start.run (options.apply pieces)
    p.finish name

/-- The template of a source under options for white space. -/
def parse (options : Spacing) (name content : String) : Except Error Template :=
  match parseChars options name content.toList with
  | .error (line, fault) => .error (.invalidSyntax name line fault)
  | .ok template => .ok template

end ClassScribe.Template
