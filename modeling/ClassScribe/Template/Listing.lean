import Mathlib.Data.List.Forall2
import ClassScribe.Files.Listing
import ClassScribe.Template.Directory

/-! # What a directory of templates holds

The template files below a directory, in the order of their places, and how loading them one after the
other ends. -/

namespace ClassScribe

/-- The path of a place below a directory. -/
def Path.below (directory : Path) (place : List String) : Path :=
  place.foldl (fun p name => p.join ⟨name⟩) directory

namespace Template

variable (options : Spacing) (directory : Path)

/-- The template files of a tree that lies at a path: all of them, at places that ascend name by name. -/
structure IsListing (t : FileTree) (files : List (List String × Option String)) : Prop where
  sorted : files.Pairwise (·.1 < ·.1)
  mem_iff : ∀ place content, (place, content) ∈ files ↔
    t.file? place = some content ∧ (directory.below place).extension? = some fileExtension

/-- A file gives a template, which is parsed from its text under the identifier of its path. -/
structure FileGives (p : Path) (content : Option String) (t : Template) : Prop where
  identifier : identifier? p = some t.name
  parsed : ∃ text, content = some text ∧ parse options t.name text = .ok t

/-- A file gives no template, since it is no text, has no identifier, or is not parsed. -/
inductive FileFails (p : Path) : Option String → Error → Prop
  | unreadable : FileFails p none .unreadable
  | unnamed {text : String} : identifier? p = none → FileFails p (some text) (.notFound p.text)
  | wrong {id text : String} {e : Error} : identifier? p = some id → parse options id text = .error e →
      FileFails p (some text) e

/-- Files in a row give templates, all of them or those in front of the first one that fails. -/
inductive FilesGive :
    List (List String × Option String) → List Template → Except Error Nat → Prop
  | all {files : List (List String × Option String)} {templates : List Template} :
      List.Forall₂ (fun f t => FileGives options (directory.below f.1) f.2 t) files templates →
      FilesGive files templates (.ok files.length)
  | upTo {files rest : List (List String × Option String)} {templates : List Template}
      {failing : List String × Option String} {e : Error} :
      List.Forall₂ (fun f t => FileGives options (directory.below f.1) f.2 t) files templates →
      FileFails options (directory.below failing.1) failing.2 e →
      FilesGive (files ++ failing :: rest) templates (.error e)

/-- Templates are laid over a library: under each name is the last one of them that has it, or else what
was there before. -/
def Library.Overlaid (before : Library) (templates : List Template) (after : Library) : Prop :=
  ∀ name, after.get? name = (templates.reverse.find? (·.name == name)).or (before.get? name)

end Template
end ClassScribe
