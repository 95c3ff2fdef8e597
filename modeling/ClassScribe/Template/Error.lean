import ClassScribe.Expr.Eval
import ClassScribe.Expr.Parser
import ClassScribe.Schema.Accessor
import ClassScribe.Template.Piece

/-! # Errors of templates

Everything that can go wrong between the source of a template and the text of a class, each with
its cause and the text of its message. -/

namespace ClassScribe.Template

/-! ### Causes -/

/-- What is wrong with the source of a template. -/
inductive SyntaxFault
  | cut (fault : CutFault)
  | expression (cause : Expr.SyntaxError)
  | unknownFilter (name : String)
  | superOutsideBlock
  | extendsInside
  | secondParent
  | emptyParent
  | loopShape
  | loopTarget (name : String)
  | assignShape
  | assignTarget (name : String)
  | blockName
  | afterBlockName (word : String)
  | duplicateBlock (name : String)
  | endblockName (found : String) (name : String)
  | unexpected (keyword : String)
  | unknownStatement (keyword : String)
  | unclosedIf
  | unclosed (keyword : String)
  | unclosedBlock (name : String)
  deriving DecidableEq, Repr

/-- The text of a fault. -/
def SyntaxFault.message : SyntaxFault → String
  | .cut fault => fault.message
  | .expression cause => cause.message
  | .unknownFilter name => "unknown filter `" ++ name ++ "`"
  | .superOutsideBlock => "`super()` used outside of a block"
  | .extendsInside => "`extends` must appear at the top level"
  | .secondParent => "template extends more than one parent"
  | .emptyParent => "`extends` requires a template name"
  | .loopShape => "expected `for <name> in <expr>`"
  | .loopTarget name => "invalid loop variable `" ++ name ++ "`"
  | .assignShape => "expected `set <name> = <expr>`"
  | .assignTarget name => "invalid variable name `" ++ name ++ "`"
  | .blockName => "expected `block <name>`"
  | .afterBlockName word => "unexpected `" ++ word ++ "` after block name"
  | .duplicateBlock name => "block `" ++ name ++ "` defined twice"
  | .endblockName found name => "`endblock " ++ found ++ "` closes block `" ++ name ++ "`"
  | .unexpected keyword => "unexpected `" ++ keyword ++ "`"
  | .unknownStatement keyword => "unknown statement `" ++ keyword ++ "`"
  | .unclosedIf => "unclosed `if`, expected `endif`"
  | .unclosed keyword => "unclosed statement, expected `" ++ keyword ++ "`"
  | .unclosedBlock name => "unclosed block `" ++ name ++ "`"

/-- Why templates cannot be put together. -/
inductive ResolutionFault
  | cycle (layers : List String)
  | unknownTemplate
  | unknownParent (name : String)
  | notRoot (parent : String)
  | noSuper
  | unexpandedSuper
  | recursiveBlock
  deriving DecidableEq, Repr

/-- Layers in a row, as messages show them. -/
def showLayers (layers : List String) : String := Text.joinWith " -> " layers

/-- The text of a fault. -/
def ResolutionFault.message : ResolutionFault → String
  | .cycle layers => "extension cycle: " ++ showLayers layers
  | .unknownTemplate => "unknown template"
  | .unknownParent name => "extends unknown template `" ++ name ++ "`"
  | .notRoot parent =>
    "base of a chain must be a root template, but it extends `" ++ parent ++ "`"
  | .noSuper => "`super()` has no less specific definition to refer to"
  | .unexpandedSuper => "unexpanded `super()`"
  | .recursiveBlock => "block is rendered inside itself"

/-- Why a template has no text for a context. -/
inductive RenderFault
  | eval (cause : Expr.EvalError)
  | print (subject : String) (kind : Kind)
  | iterate (subject : String) (kind : Kind)
  | method (index : Nat) (cause : AccessorPlan.Error)
  deriving DecidableEq, Repr

/-- What a fault is about. -/
def RenderFault.subject : RenderFault → String
  | .eval cause => cause.subject
  | .print subject _ => subject
  | .iterate subject _ => subject
  | .method index cause => "methods[" ++ String.ofList (digitsOf index) ++ "]." ++ cause.field

/-- The text of a fault. -/
def RenderFault.message : RenderFault → String
  | .eval cause => cause.message
  | .print _ kind => "cannot print " ++ kind.name
  | .iterate _ kind => "cannot iterate over " ++ kind.name
  | .method _ cause => cause.message

/-! ### Errors -/

/-- Why there is no template, no chain, or no text for a class. -/
inductive Error
  /-- A block is declared as required and not defined. -/
  | missingBlock (template block : String)
  /-- Templates cannot be put together. -/
  | resolution (template : String) (block : Option String) (fault : ResolutionFault)
  /-- A class cannot be rendered. -/
  | render (className template : String) (block : Option String) (fault : RenderFault)
  /-- The source of a template is wrong. -/
  | invalidSyntax (template : String) (line : Nat) (fault : SyntaxFault)
  /-- Statements are nested too deep. -/
  | nestedTooDeep (template : String) (limit : Nat)
  /-- A file has no name to take an identifier from. -/
  | notFound (path : String)
  /-- A file or directory cannot be read. -/
  | unreadable
  /-- The program has stopped at an operation on values. -/
  | halted (cause : Halt)
  deriving DecidableEq, Repr

/-- How a message names a block, if there is one. -/
def showBlock : Option String → String
  | some name => ", block `" ++ name ++ "`"
  | none => ""

/-- The text of an error. -/
def Error.message : Error → String
  | .missingBlock template block =>
    "Missing block `" ++ block ++ "` in template chain ending at `" ++ template ++ "`"
  | .resolution template block fault =>
    "Resolution error in template `" ++ template ++ "`" ++ showBlock block ++ ": " ++ fault.message
  | .render className template block fault =>
    "Render error for class `" ++ className ++ "` in template `" ++ template ++ "`" ++
      showBlock block ++ ": `" ++ fault.subject ++ "`: " ++ fault.message
  | .invalidSyntax template line fault =>
    "Invalid template syntax in `" ++ template ++ "` at line " ++ String.ofList (digitsOf line) ++
      ": " ++ fault.message
  | .nestedTooDeep template limit =>
    "Validation failed: Template `" ++ template ++ "` nests statements too deep (max " ++
      String.ofList (digitsOf limit) ++ " levels)"
  | .notFound path => "Template not found: " ++ path
  | .unreadable => "IO error"
  | .halted cause => cause.message

end ClassScribe.Template
