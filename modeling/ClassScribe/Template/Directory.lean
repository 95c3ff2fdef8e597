import ClassScribe.Files.System
import ClassScribe.Template.Library

/-! # Templates from files

A template file is named `identifier.language.tmpl`. The template files of a directory are loaded in
the order of their names, each directory at its own name, so the order in which a directory lists its
entries does not count. -/

namespace ClassScribe.Template

/-- The extension of template files. -/
def fileExtension : String := "tmpl"

/-- The identifier of a template from the name of its file: the name without the extension, up to
its last dot. -/
def identifierOf (name : String) : String :=
  let name := name.toList
  let name := (Text.dropTail? ('.' :: fileExtension.toList) name).getD name
  match name.splitOn '.' with
  | [_] => String.ofList name
  | parts => String.ofList (['.'].intercalate parts.dropLast)

/-- The identifier of the template in a file. -/
def identifier? (p : Path) : Option String :=
  (p.fileName?.map identifierOf).filter (· != "")

namespace Library

/-- Adds the template of a file, from its content if that is a text. -/
def addFile (l : Library) (options : Spacing) (p : Path) (content : Option String) :
    Except Error (Library × String) :=
  match content, identifier? p with
  | none, _ => .error .unreadable
  | some _, none => .error (.notFound p.text)
  | some content, some id => do
    let l ← l.add options id content
    pure (l, id)

/-- Loads the template at a path and returns its identifier. -/
def loadFile (l : Library) (options : Spacing) (s : FileSystem) (p : Path) :
    Except Error (Library × String) :=
  l.addFile options p (s.read? p)

end Library

/-! ### Directories -/

mutual
/-- The template files of a tree that lies at a path, in the order in which they are loaded. -/
def filesIn (p : Path) : FileTree → List (Path × Option String)
  | .file content => if p.extension? = some fileExtension then [(p, content)] else []
  | .directory entries =>
    ((filesByName p entries).mergeSort (·.1 ≤ ·.1)).flatMap (·.2)
/-- The template files of each entry of a directory. -/
def filesByName (directory : Path) :
    List (String × FileTree) → List (String × List (Path × Option String))
  | [] => []
  | (name, t) :: rest =>
    (name, filesIn (directory.join ⟨name⟩) t) :: filesByName directory rest
end

namespace Library

/-- Adds the templates of files up to the first one that fails. The number of templates is counted
on from `loaded`; what was added before a failure stays. -/
def addFiles (options : Spacing) (l : Library) (loaded : Nat) :
    List (Path × Option String) → Library × Except Error Nat
  | [] => (l, .ok loaded)
  | (p, content) :: rest =>
    match l.addFile options p content with
    | .ok (l, _) => addFiles options l (loaded + 1) rest
    | .error e => (l, .error e)

/-- Loads the template files below a directory; one that is not there has none. -/
def loadDirectory (l : Library) (options : Spacing) (s : FileSystem) (directory : Path) :
    Library × Except Error Nat :=
  match s.find? directory with
  | none => (l, .ok 0)
  | some (.file _) => (l, .error .unreadable)
  | some below => addFiles options l 0 (filesIn directory below)

end Library
end ClassScribe.Template
