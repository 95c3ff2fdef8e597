import Mathlib.Data.List.Chain
import Mathlib.Logic.Relation
import ClassScribe.Template.Grammar
import ClassScribe.Template.Validation

/-! # Nested statements

Which statements of an outline stand in which others, and rows of statements each of which stands in the one
before it. The bodies of blocks are in their places here, while the check on load looks at every block on its
own. -/

namespace ClassScribe.Template

namespace Node

/-- The bodies of a part. -/
def bodies : Node → List (List Node)
  | .choice branches otherwise => branches.map Prod.snd ++ [otherwise]
  | .loop _ _ body | .block _ _ body => [body]
  | .text _ | .output _ | .super | .assign _ _ => []

/-- Whether a part is a conditional or a loop. -/
def isControl : Node → Bool
  | .choice _ _ | .loop _ _ _ => true
  | .text _ | .output _ | .super | .assign _ _ | .block _ _ _ => false

/-- Whether a part is a conditional, a loop or a block. -/
def hasBody : Node → Bool
  | .choice _ _ | .loop _ _ _ | .block _ _ _ => true
  | .text _ | .output _ | .super | .assign _ _ => false

/-- Whether a part stands in a body of another one, with nothing open in between. -/
def Holds (n m : Node) : Prop := ∃ body ∈ n.bodies, m ∈ body

end Node

/-- Whether a part stands somewhere in an outline. -/
def Within (ns : List Node) (m : Node) : Prop := ∃ n ∈ ns, Relation.ReflTransGen Node.Holds n m

/-- Whether parts of an outline, all of which count, stand in a row each in the one before it, directly or with
other parts open in between that count too. -/
structure NestingChain (counts : Node → Bool) (ns chain : List Node) : Prop where
  within : ∀ n ∈ chain, Within ns n
  counted : ∀ n ∈ chain, counts n = true
  nested : chain.IsChain (Relation.TransGen fun n m => counts n = true ∧ n.Holds m)

/-- Whether a content is an outline with the name of its parent, as it is read with the usual white space. -/
def Outlines (content : String) (parent : Option String) (ns : List Node) : Prop :=
  ∃ pieces, Piece.cut content.toList = .ok pieces ∧
    Sentence (fun _ => True) parent ns (Spacing.standard.apply pieces) ∧
    ((Node.blocksOf ns).map (·.name)).Nodup

end ClassScribe.Template
