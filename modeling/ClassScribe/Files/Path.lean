import ClassScribe.Text.Blank

/-! # Paths

A path is a text of names with slashes between them. It is kept as it is written, since messages
show it so; its steps, its last name and its parent are read off the text. -/

namespace ClassScribe

/-- A path, as it is written. -/
structure Path where
  text : String
  deriving DecidableEq, Repr

/-- A step from a directory. -/
inductive Step
  | stay
  | up
  | down (name : String)
  deriving DecidableEq, Repr

namespace Path

/-- The parts between the slashes; there is always one. -/
def parts (p : Path) : List String := (p.text.toList.splitOn '/').map String.ofList

/-- A part that leads nowhere: an empty one, or a dot. -/
def isIdle (part : String) : Bool := part == "" || part == "."

/-- The step of a part. -/
def stepOf (part : String) : Step :=
  if isIdle part then .stay else if part = ".." then .up else .down part

/-- The steps of a path. A slash at the end is a step too, so that it only fits a directory. -/
def steps (p : Path) : List Step := p.parts.map stepOf

/-- A path from the root of all files. -/
def isAbsolute (p : Path) : Bool := p.text.toList.head? == some '/'

/-! ### Names -/

/-- The name at the end, if the path does not end with a step up. -/
def fileName? (p : Path) : Option String :=
  match (p.steps.filter (· != .stay)).getLast? with
  | some (.down name) => some name
  | _ => none

/-- What follows the last dot of a name, if something stands before it. -/
def extensionOf (name : String) : Option String :=
  match name.toList.splitOn '.' with
  | [_] | [[], _] => none
  | parts => parts.getLast?.map String.ofList

/-- The extension of the name at the end. -/
def extension? (p : Path) : Option String := p.fileName?.bind extensionOf

/-! ### Longer and shorter paths -/

/-- A path below a directory; an absolute one stands for itself. -/
def join (directory p : Path) : Path :=
  if p.isAbsolute || directory.text = "" then p
  else if directory.text.toList.getLast? = some '/' then ⟨directory.text ++ p.text⟩
  else ⟨directory.text ++ "/" ++ p.text⟩

/-- The parts without the idle ones at the end; the first part counts in any case. -/
def dropIdle : List String → List String
  | [] => []
  | first :: rest => first :: (rest.reverse.dropWhile isIdle).reverse

/-- The path of parts. -/
def ofParts : List String → Path
  | [""] => ⟨"/"⟩
  | parts => ⟨Text.joinWith "/" parts⟩

/-- The path without its last part, if it has one. -/
def parent? (p : Path) : Option Path :=
  match dropIdle p.parts with
  | [] | [""] => none
  | parts => some (ofParts (dropIdle parts.dropLast))

end Path
end ClassScribe
