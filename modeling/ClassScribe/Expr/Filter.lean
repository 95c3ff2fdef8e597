import ClassScribe.Expr.Halt
import ClassScribe.Schema.Naming
import ClassScribe.Text.Margin
import ClassScribe.Text.WordCase
import ClassScribe.Value

/-! # Filters

What stands behind a bar in an expression: functions from a value and further arguments to a
value. Arguments that a filter does not know are ignored. -/

namespace ClassScribe

/-- The filters. -/
inductive Filter
  /-- The number of characters, items or fields. -/
  | length
  /-- Puts arguments in the places of `%s`. -/
  | format
  /-- Pads the lines of a text. -/
  | indent
  /-- Makes the first character a capital. -/
  | title
  /-- Re-cases a text. -/
  | recase (style : Text.CaseStyle)
  /-- Moves a text to the left margin. -/
  | dedent
  /-- Prints the items of a sequence with a separator between them. -/
  | join
  /-- Drops the white space at both ends. -/
  | trim
  /-- Replaces what is missing. -/
  | default
  /-- Makes a constant key of a name. -/
  | constant
  deriving DecidableEq, Repr

namespace Filter

/-- All filters. -/
def all : List Filter :=
  [.length, .format, .indent, .title] ++ Text.CaseStyle.all.map .recase ++
    [.dedent, .join, .trim, .default, .constant]

/-- The name of a filter. -/
def name : Filter → String
  | .length => "length"
  | .format => "format"
  | .indent => "indent"
  | .title => "title"
  | .recase style => style.name
  | .dedent => "dedent"
  | .join => "join"
  | .trim => "trim"
  | .default => "default"
  | .constant => "constant"

/-- The filter of a name. -/
def ofName? (name : String) : Option Filter := all.find? (·.name == name)

/-- Whether there is a filter of that name. -/
def isKnown (name : String) : Bool := (ofName? name).isSome

/-! ### Errors -/

/-- What an input has to be. -/
inductive Expected
  | text
  | textOrSequence
  | sequence
  deriving DecidableEq, Repr

/-- How a message names the expected input. -/
def Expected.phrase : Expected → String
  | .text => "a string"
  | .textOrSequence => "a string or sequence"
  | .sequence => "a sequence"

/-- What is wrong with an argument. -/
inductive Fault
  | tooFew
  | tooMany
  | unsupportedConversion (c : Char)
  | unprintable (kind : Kind)
  | notAWidth (n : Number)
  | widthKind (kind : Kind)
  | firstKind (kind : Kind)
  | separatorKind (kind : Kind)
  deriving DecidableEq, Repr

/-- The text of a fault. -/
def Fault.message : Fault → String
  | .tooFew => "not enough arguments for format string"
  | .tooMany => "not all arguments converted"
  | .unsupportedConversion c => "unsupported conversion `%" ++ String.singleton c ++ "`"
  | .unprintable kind => "cannot print " ++ kind.name
  | .notAWidth n => "width must be a non-negative integer, got " ++ String.ofList n.text
  | .widthKind kind => "width must be a number, got " ++ kind.name
  | .firstKind kind => "`first` must be a boolean, got " ++ kind.name
  | .separatorKind kind => "separator must be a string, got " ++ kind.name

/-- Why a filter has no result. -/
inductive Error
  | unknown (name : String)
  | invalidInput (filter : Filter) (expected : Expected) (found : Kind)
  | invalidArgument (filter : Filter) (fault : Fault)
  deriving DecidableEq, Repr

/-- The text of the failure. -/
def Error.message : Error → String
  | .unknown name => "unknown filter `" ++ name ++ "`"
  | .invalidInput filter expected found =>
    "filter `" ++ filter.name ++ "` expects " ++ expected.phrase ++ ", got " ++ found.name
  | .invalidArgument filter fault => "filter `" ++ filter.name ++ "`: " ++ fault.message

/-! ### Substitution -/

/-- The pattern with an argument for every `%s` and a percent sign for every `%%`. -/
def substitute : List Char → List Value → Except Fault (List Char)
  | [], [] => .ok []
  | [], _ :: _ => .error .tooMany
  | '%' :: '%' :: rest, args => (substitute rest args).map ('%' :: ·)
  | '%' :: 's' :: _, [] => .error .tooFew
  | '%' :: 's' :: rest, arg :: args =>
    match arg.display? with
    | some text => (substitute rest args).map (text.toList ++ ·)
    | none => .error (.unprintable arg.kind)
  | '%' :: c :: _, _ => .error (.unsupportedConversion c)
  | ['%'], _ => .error (.unsupportedConversion ' ')
  | c :: rest, args => (substitute rest args).map (c :: ·)

/-! ### Padding -/

/-- The failure of a filter by an argument. -/
def invalid {α : Type} (filter : Filter) (fault : Fault) : Except (Stop Error) α :=
  .error (.error (.invalidArgument filter fault))

/-- The number from which on a text has more bytes than a signed word counts. -/
def capacity : Nat := 0x8000000000000000

/-- A number of spaces in a row. Too many of them stop the program before there is any. -/
def spaces (width : Nat) : Except (Stop Error) (List Char) :=
  if width < capacity then .ok (List.replicate width ' ') else .error (.halt .capacity)

/-- The padding that the first argument of `indent` asks for: four spaces, a number of spaces, or a
text. -/
def padding : Option Value → Except (Stop Error) (List Char)
  | none => .ok (List.replicate 4 ' ')
  | some (.number n) =>
    match n.unsigned? with
    | some width => spaces width
    | none => invalid .indent (.notAWidth n)
  | some (.text s) => .ok s.toList
  | some v => invalid .indent (.widthKind v.kind)

/-- Whether the second argument of `indent` asks for padding before the first line. -/
def padsFirst : Option Value → Except (Stop Error) Bool
  | none => .ok false
  | some (.bool b) => .ok b
  | some v => invalid .indent (.firstKind v.kind)

/-! ### Joining -/

/-- The separator that the argument of `join` asks for. -/
def separator : Option Value → Except Fault String
  | none => .ok ""
  | some (.text s) => .ok s
  | some v => .error (.separatorKind v.kind)

/-- The texts of printable values. -/
def displayAll : List Value → Except Fault (List String)
  | [] => .ok []
  | v :: rest =>
    match v.display? with
    | some text => (displayAll rest).map (text :: ·)
    | none => .error (.unprintable v.kind)

/-! ### Application -/

/-- The failure of a filter by its input. -/
def unfit {α : Type} (filter : Filter) (expected : Expected) (input : Value) : Except (Stop Error) α :=
  .error (.error (.invalidInput filter expected input.kind))

/-- Applies a function on characters to an input that has to be a string. -/
def onText (filter : Filter) (f : List Char → List Char) : Value → Except (Stop Error) Value
  | .text s => .ok (.text (String.ofList (f s.toList)))
  | v => unfit filter .text v

/-- The number of characters, items or fields of a value. -/
def lengthOf : Value → Except (Stop Error) Value
  | .text s => .ok (.int s.length)
  | .sequence items => .ok (.int items.length)
  | .mapping fields => .ok (.int fields.length)
  | v => unfit .length .textOrSequence v

/-- The pattern that is the input, with the arguments in its places. -/
def formatText (input : Value) (args : List Value) : Except (Stop Error) Value :=
  match input with
  | .text s =>
    match substitute s.toList args with
    | .ok t => .ok (.text (String.ofList t))
    | .error fault => invalid .format fault
  | v => unfit .format .text v

/-- The text that is the input, with padding before its lines. -/
def indentText (input : Value) (args : List Value) : Except (Stop Error) Value :=
  match input with
  | .text s => do
    let pad ← padding args.head?
    let first ← padsFirst args[1]?
    pure (.text (String.ofList (Text.indent pad first s.toList)))
  | v => unfit .indent .text v

/-- The items of a sequence in one text. -/
def joinItems (input : Value) (args : List Value) : Except (Stop Error) Value :=
  match input with
  | .sequence items =>
    match (do pure (Text.joinWith (← separator args.head?) (← displayAll items))) with
    | .ok s => .ok (.text s)
    | .error fault => invalid .join fault
  | v => unfit .join .sequence v

/-- The value of a filter for an input and arguments. -/
def apply (filter : Filter) (input : Value) (args : List Value) : Except (Stop Error) Value :=
  match filter with
  | .length => lengthOf input
  | .format => formatText input args
  | .indent => indentText input args
  | .title => onText .title Naming.methodTitle input
  | .recase style => onText (.recase style) style.apply input
  | .dedent => onText .dedent Text.dedent input
  | .join => joinItems input args
  | .trim => onText .trim Text.trim input
  | .default =>
    match input with
    | .none => .ok (args.head?.getD (.text ""))
    | v => .ok v
  | .constant => onText .constant Naming.constantKey input

/-- The value of the filter of a name. -/
def applyName (name : String) (input : Value) (args : List Value) : Except (Stop Error) Value :=
  match ofName? name with
  | some filter => filter.apply input args
  | none => .error (.error (.unknown name))

end Filter
end ClassScribe
