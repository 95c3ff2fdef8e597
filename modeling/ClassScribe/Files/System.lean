import ClassScribe.Files.Tree

/-! # File systems

All files, and the directory that a run works in. Paths are followed from there, or from the top if
they are absolute. -/

namespace ClassScribe

/-- A tree of files with the place of the working directory. -/
structure FileSystem where
  root : FileTree
  working : List String

namespace FileSystem

/-! ### Following paths -/

/-- The place that a step leads to. Only a directory can be left; above the top is the top. -/
def follow? (t : FileTree) (place : List String) (step : Step) : Option (List String) :=
  if (t.get? place).any (·.isDirectory) then
    match step with
    | .stay => some place
    | .up => some place.dropLast
    | .down name => some (place ++ [name])
  else none

/-- Where a path starts. An empty path leads nowhere. -/
def start? (s : FileSystem) (p : Path) : Option (List String) :=
  if p.text = "" then none else some (if p.isAbsolute then [] else s.working)

/-- The place that a path leads to, where nothing has to be. -/
def place? (s : FileSystem) (p : Path) : Option (List String) := do
  p.steps.foldlM (follow? s.root) (← s.start? p)

/-- What a path leads to. -/
def find? (s : FileSystem) (p : Path) : Option FileTree := (s.place? p).bind s.root.get?

/-- Whether a path leads to something. -/
def contains (s : FileSystem) (p : Path) : Bool := (s.find? p).isSome

/-- Whether a path leads to a file. -/
def isFile (s : FileSystem) (p : Path) : Bool := (s.find? p).any (!·.isDirectory)

/-- The content of a file that is a text. -/
def read? (s : FileSystem) (p : Path) : Option String :=
  match s.find? p with
  | some (.file content) => content
  | _ => none

/-! ### Making files -/

/-- The greatest size of a name in bytes. -/
def maxNameSize : Nat := 255

/-- Whether a new file or directory can have a name. -/
def canName (name : String) : Bool :=
  name.utf8ByteSize ≤ maxNameSize && !name.toList.contains '\x00'

/-- Takes a step in a tree, and makes a directory where nothing is. -/
def enter? (state : FileTree × List String) (step : Step) : Option (FileTree × List String) := do
  let (t, here) := state
  let place ← follow? t here step
  match t.get? place with
  | some (.directory _) => some (t, place)
  | some (.file _) => none
  | none => if place.getLast?.all canName then some (t.put place .empty, place) else none

/-- Makes all directories of a path that are not there. -/
def makeDirectories? (s : FileSystem) (p : Path) : Option FileSystem := do
  let start ← s.start? p
  let (root, _) ← p.steps.foldlM enter? (s.root, start)
  pure { s with root }

/-- Puts a file in a directory that is there. -/
def put? (s : FileSystem) (p : Path) (content : Option String) : Option FileSystem := do
  let place ← s.place? p
  let new : FileSystem := { s with root := s.root.put place (.file content) }
  match s.root.get? place with
  | some (.directory _) => none
  | some (.file _) => some new
  | none => if place.getLast?.all canName then some new else none

/-- Writes a text to a file in a directory that is there. -/
def write? (s : FileSystem) (p : Path) (content : String) : Option FileSystem :=
  s.put? p (some content)

/-! ### The working directory -/

/-- What is in the working directory. -/
def workingTree (s : FileSystem) : FileTree := (s.root.get? s.working).getD .empty

/-- The files of the working directory that are new, or that have another content than before. -/
def changes (before after : FileSystem) : List (Path × Option String) :=
  FileTree.changes ⟨""⟩ before.workingTree after.workingTree

end FileSystem
end ClassScribe
