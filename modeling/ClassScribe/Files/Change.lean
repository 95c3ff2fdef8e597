import ClassScribe.Files.System

/-! # What is changed in files

Two file systems are compared by the contents of their files. Directories that have been made do not
count, but none may be missing. -/

namespace ClassScribe

namespace FileTree

/-- The content of the file at a place, if there is a file. -/
def file? (t : FileTree) (place : List String) : Option (Option String) :=
  match t.get? place with
  | some (.file content) => some content
  | _ => none

/-- There is a directory at a place. -/
def HasDirectory (t : FileTree) (place : List String) : Prop :=
  ∃ entries, t.get? place = some (.directory entries)

/-- There are the same files with the same contents, and all directories are still there. -/
structure Extends (before after : FileTree) : Prop where
  file?_eq : ∀ place, after.file? place = before.file? place
  hasDirectory : ∀ place, before.HasDirectory place → after.HasDirectory place

end FileTree

namespace FileSystem

/-- There are the same files with the same contents. -/
structure SameFiles (before after : FileSystem) : Prop where
  working_eq : after.working = before.working
  root_extends : before.root.Extends after.root

/-- A path leads to a file with a text, and all other files are the same, with the same contents. -/
structure Written (before : FileSystem) (p : Path) (text : String) (after : FileSystem) : Prop where
  working_eq : after.working = before.working
  hasDirectory : ∀ place, before.root.HasDirectory place → after.root.HasDirectory place
  exists_place : ∃ place, after.place? p = some place ∧ after.root.file? place = some (some text) ∧
    ∀ other, other ≠ place → after.root.file? other = before.root.file? other

end FileSystem
end ClassScribe
