import ClassScribe.Files.Path

/-! # Trees of files

A directory with everything below it, as a value. A file that is not a text has no content here. -/

namespace ClassScribe

/-- A file, or a directory with its entries in any order. -/
inductive FileTree
  | file (content : Option String)
  | directory (entries : List (String × FileTree))
  deriving Inhabited

namespace FileTree

/-- A directory without entries. -/
def empty : FileTree := .directory []

/-- Whether this is a directory. -/
def isDirectory : FileTree → Bool
  | .file _ => false
  | .directory _ => true

/-! ### Places

A place is a list of names, from the top down. -/

/-- The entry of a name. -/
def entry? : FileTree → String → Option FileTree
  | .file _, _ => none
  | .directory entries, name => entries.lookup name

/-- What is at a place. -/
def get? (t : FileTree) : List String → Option FileTree
  | [] => some t
  | name :: rest => (t.entry? name).bind (·.get? rest)

/-- The entries with one of them set. -/
def setEntry (name : String) (t : FileTree) : List (String × FileTree) → List (String × FileTree)
  | [] => [(name, t)]
  | (n, old) :: rest => if n = name then (name, t) :: rest else (n, old) :: setEntry name t rest

/-- The tree with something else at a place, in a directory that is there. -/
def put (t : FileTree) (place : List String) (new : FileTree) : FileTree :=
  match place, t with
  | [], _ => new
  | _ :: _, .file content => .file content
  | name :: rest, .directory entries =>
    .directory (setEntry name (((entries.lookup name).getD empty).put rest new) entries)
termination_by structural place

/-! ### All files -/

mutual
/-- The files of a tree that lies at a path, with their contents. -/
def filesAt (p : Path) : FileTree → List (Path × Option String)
  | .file content => [(p, content)]
  | .directory entries => filesOf p entries
/-- The files of the entries of a directory. -/
def filesOf (directory : Path) : List (String × FileTree) → List (Path × Option String)
  | [] => []
  | (name, t) :: rest => filesAt (directory.join ⟨name⟩) t ++ filesOf directory rest
end

/-- The files that are new, or that have another content than before, as paths from `top` on. -/
def changes (top : Path) (before after : FileTree) : List (Path × Option String) :=
  (filesAt top after).filter (!(filesAt top before).contains ·)

end FileTree
end ClassScribe
