import ClassScribe.Template.Outline
import ClassScribe.Template.Parser

/-! # The grammar of templates

Which texts are statements, and which rows of texts, outputs and statements say what an outline
does. The grammar knows no stack: what stands between an opening and its end is a row of its own.
Some statements pass over words behind them. The grammar has a condition on these words, so that it
describes the strict forms too. -/

namespace ClassScribe.Template

/-! ### Statements -/

/-- A statement of a template. -/
inductive Statement
  | parent (name : String)
  | block (name : String) (required : Bool)
  | endblock (name : Option String)
  | loop (target : String) (items : Expr)
  | endfor
  | branch (condition : Expr)
  | elif (condition : Expr)
  | otherwise
  | endif
  | assign (name : String) (value : Expr)

/-- A text that is read as an expression, the filters of which are all known. -/
def Expresses (source : List Char) (e : Expr) : Prop :=
  Expr.parse source = .ok e ∧ ∀ name ∈ e.filterNames, Filter.isKnown name = true

namespace Statement

/-- The word that a statement starts with. -/
def keyword : Statement → String
  | .parent _ => "extends"
  | .block _ _ => "block"
  | .endblock _ => "endblock"
  | .loop _ _ => "for"
  | .endfor => "endfor"
  | .branch _ => "if"
  | .elif _ => "elif"
  | .otherwise => "else"
  | .endif => "endif"
  | .assign _ _ => "set"

/-- What may follow the keyword of a statement, white space at the ends apart, and the words of it
that the statement passes over. -/
inductive Argument : Statement → List Char → List (List Char) → Prop
  /-- `NAME`, with or without quotes around it -/
  | parent {s : List Char} : Progress.dropQuotes s ≠ [] →
      Argument (.parent (String.ofList (Progress.dropQuotes s))) s []
  /-- `ID` -/
  | block {name : String} {s : List Char} : Text.isIdentifier name.toList = true →
      Text.words s = [name.toList] → Argument (.block name false) s []
  /-- `ID required` -/
  | required {name : String} {s : List Char} {more : List (List Char)} :
      Text.isIdentifier name.toList = true →
      Text.words s = name.toList :: "required".toList :: more → Argument (.block name true) s more
  /-- nothing -/
  | endblock : Argument (.endblock none) [] []
  /-- `ID` -/
  | endblockName {name : String} : name.toList ≠ [] →
      Argument (.endblock (some name)) name.toList []
  /-- `ID in EXPR` -/
  | loop {target : String} {items : Expr} {blank source : List Char} :
      Text.isIdentifier target.toList = true → (∀ c ∈ blank, Text.isBlank c = true) →
      Expresses source items →
      Argument (.loop target items) (target.toList ++ blank ++ (" in ".toList ++ source)) []
  /-- nothing that counts -/
  | endfor {s : List Char} : Argument .endfor s (Text.words s)
  /-- `EXPR` -/
  | branch {condition : Expr} {s : List Char} : Expresses s condition →
      Argument (.branch condition) s []
  /-- `EXPR` -/
  | elif {condition : Expr} {s : List Char} : Expresses s condition → Argument (.elif condition) s []
  /-- nothing that counts -/
  | otherwise {s : List Char} : Argument .otherwise s (Text.words s)
  /-- nothing that counts -/
  | endif {s : List Char} : Argument .endif s (Text.words s)
  /-- `ID = EXPR` -/
  | assign {name : String} {value : Expr} {blank source : List Char} :
      Text.isIdentifier name.toList = true → (∀ c ∈ blank, Text.isBlank c = true) →
      Expresses source value →
      Argument (.assign name value) (name.toList ++ blank ++ '=' :: source) []

/-- Whether words behind a statement are passed over. -/
def passesOver : Statement → Bool
  | .block _ required => required
  | .endfor | .otherwise | .endif => true
  | .parent _ | .endblock _ | .loop _ _ | .branch _ | .elif _ | .assign _ _ => false

/-- Whether a text is, as a whole, a statement with some words that are passed over: its keyword, and
behind white space what may follow that. -/
def Says (st : Statement) (source : List Char) (passed : List (List Char)) : Prop :=
  ∃ tail, source = st.keyword.toList ++ tail ∧ (∀ c ∈ tail.head?, Text.isBlank c = true) ∧
    st.Argument (Text.trim tail) passed

/-- Whether a text is a statement, and the words that are passed over may be. -/
def Written (allowed : List (List Char) → Prop) (st : Statement) (source : List Char) : Prop :=
  ∃ passed, st.Says source passed ∧ allowed passed

end Statement

/-- Whether a part is no statement that passes over words which are not allowed there. -/
def Part.Permits (allowed : List (List Char) → Prop) : Part → Prop
  | .statement source _ => ∀ (st : Statement) (passed : List (List Char)),
      st.Says source passed → allowed passed
  | .text _ | .output _ _ => True

/-- The block that a part opens. -/
def Part.opening? : Part → Option String
  | .statement source _ =>
    let (word, rest) := Text.splitAtBlank source
    if word = "block".toList then (Text.words (Text.trim rest)).head?.map String.ofList else none
  | .text _ | .output _ _ => none

/-! ### Rows of parts -/

/-- What rows of parts can say: nodes, or what follows the body of a condition, up to the end of the
choice. -/
inductive Phrase
  | nodes (ns : List Node)
  | arms (branches : List (Expr × List Node)) (otherwise : List Node)

/-- Whether a row of parts says a phrase, where `allowed` tells which words may be passed over, and the
flag tells whether the row stands in a block. On the lines of the tags there is no condition. -/
inductive Phrase.Says (allowed : List (List Char) → Prop) : Bool → Phrase → List Part → Prop
  | done {inside : Bool} : Says allowed inside (.nodes []) []
  | text {inside : Bool} {s : List Char} {ns : List Node} {ps : List Part} :
      Says allowed inside (.nodes ns) ps →
      Says allowed inside (.nodes (.text (String.ofList s) :: ns)) (.text s :: ps)
  | output {inside : Bool} {e : Expr} {source : List Char} {line : Nat} {ns : List Node}
      {ps : List Part} :
      source ≠ "super()".toList → Expresses source e → Says allowed inside (.nodes ns) ps →
      Says allowed inside (.nodes (.output e :: ns)) (.output source line :: ps)
  | super {line : Nat} {ns : List Node} {ps : List Part} :
      Says allowed true (.nodes ns) ps →
      Says allowed true (.nodes (.super :: ns)) (.output "super()".toList line :: ps)
  | assign {inside : Bool} {name : String} {value : Expr} {source : List Char} {line : Nat}
      {ns : List Node} {ps : List Part} :
      (Statement.assign name value).Written allowed source → Says allowed inside (.nodes ns) ps →
      Says allowed inside (.nodes (.assign name value :: ns)) (.statement source line :: ps)
  | loop {inside : Bool} {target : String} {items : Expr} {open' close : List Char}
      {line line' : Nat} {body ns : List Node} {inner ps : List Part} :
      (Statement.loop target items).Written allowed open' →
      Says allowed inside (.nodes body) inner →
      Statement.endfor.Written allowed close → Says allowed inside (.nodes ns) ps →
      Says allowed inside (.nodes (.loop target items body :: ns))
        (.statement open' line :: (inner ++ .statement close line' :: ps))
  | block {inside : Bool} {name : String} {required : Bool} {label : Option String}
      {open' close : List Char} {line line' : Nat} {body ns : List Node} {inner ps : List Part} :
      (Statement.block name required).Written allowed open' →
      Says allowed true (.nodes body) inner →
      (∀ l ∈ label, l = name) → (Statement.endblock label).Written allowed close →
      Says allowed inside (.nodes ns) ps →
      Says allowed inside (.nodes (.block name required body :: ns))
        (.statement open' line :: (inner ++ .statement close line' :: ps))
  | choice {inside : Bool} {condition : Expr} {source : List Char} {line : Nat}
      {body otherwise ns : List Node} {more : List (Expr × List Node)} {inner tail ps : List Part} :
      (Statement.branch condition).Written allowed source →
      Says allowed inside (.nodes body) inner → Says allowed inside (.arms more otherwise) tail →
      Says allowed inside (.nodes ns) ps →
      Says allowed inside (.nodes (.choice ((condition, body) :: more) otherwise :: ns))
        (.statement source line :: (inner ++ (tail ++ ps)))
  | elif {inside : Bool} {condition : Expr} {source : List Char} {line : Nat}
      {body otherwise : List Node} {more : List (Expr × List Node)} {inner tail : List Part} :
      (Statement.elif condition).Written allowed source →
      Says allowed inside (.nodes body) inner → Says allowed inside (.arms more otherwise) tail →
      Says allowed inside (.arms ((condition, body) :: more) otherwise)
        (.statement source line :: (inner ++ tail))
  | otherwise {inside : Bool} {source close : List Char} {line line' : Nat} {body : List Node}
      {inner : List Part} :
      Statement.otherwise.Written allowed source → Says allowed inside (.nodes body) inner →
      Statement.endif.Written allowed close →
      Says allowed inside (.arms [] body) (.statement source line :: (inner ++ [.statement close line']))
  | endif {inside : Bool} {source : List Char} {line : Nat} :
      Statement.endif.Written allowed source →
      Says allowed inside (.arms [] []) [.statement source line]

/-- Whether a row of parts says a template: nodes, and between them at most one statement that names
the parent. -/
inductive Sentence (allowed : List (List Char) → Prop) : Option String → List Node → List Part → Prop
  | root {ns : List Node} {ps : List Part} :
      Phrase.Says allowed false (.nodes ns) ps → Sentence allowed none ns ps
  | child {parent : String} {source : List Char} {line : Nat} {ns ms : List Node}
      {ps qs : List Part} :
      Phrase.Says allowed false (.nodes ns) ps → (Statement.parent parent).Written allowed source →
      Phrase.Says allowed false (.nodes ms) qs →
      Sentence allowed (some parent) (ns ++ ms) (ps ++ .statement source line :: qs)

end ClassScribe.Template
