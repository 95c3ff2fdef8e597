import ClassScribe.CommandLine.Run
import ClassScribe.Files.Change

/-! # The effect of a rendering command

What a rendering command is to print or to write, and which file it may change, said without a run. -/

namespace ClassScribe.CommandLine

/-- The configuration of a request. What the request itself sets wins. -/
def RenderRequest.settle (r : RenderRequest) (c : Configuration) : Configuration :=
  { c with
    templatesDirectory := r.templatesDirectory.or c.templatesDirectory
    overwrite := r.policy.getD c.overwrite }

/-- The emitter of the loaded templates gives a text for the loaded specification, whose names have been kept
apart and whose descriptions have been wrapped anew. It uses the chain of the kind of the class, or of the
template that is asked for. -/
inductive Emits (readers : Readers) (c : Configuration) (s : FileSystem) (r : RenderRequest) : String → Prop
  | ofKind {library : Template.Library} {loaded : ClassSpec} {text : String} :
      loadTemplates c s = .ok library → ClassSpec.load readers.schemas s r.schema = .ok loaded → r.template = none →
      (Emitter.mk library c.templates).emit (loaded.resolveCollisions.rewrap c.wrapWidth) = .ok text →
      Emits readers c s r text
  | ofLeaf {library : Template.Library} {loaded : ClassSpec} {leaf : String} {chain : Template.Chain}
      {text : String} :
      loadTemplates c s = .ok library → ClassSpec.load readers.schemas s r.schema = .ok loaded → r.template = some leaf →
      library.chainFor leaf = .ok chain →
      (Emitter.mk library c.templates).render (loaded.resolveCollisions.rewrap c.wrapWidth) chain = .ok text →
      Emits readers c s r text

/-- What is left by a source that is to be printed, or to be written to a file, or that there is not. -/
def deliver (c : Configuration) (s : FileSystem) (output : Option Path) : Except Failure String → Outcome
  | .error e => ⟨.error e, s⟩
  | .ok source =>
    match output with
    | none => ⟨.ok source, s⟩
    | some output =>
      let p := c.outputDirectory.join output
      let written := writeSource s p source c.overwrite
      ⟨written.1.map fun w => w.name ++ " " ++ p.text ++ "\n", written.2⟩

/-- A path leads to something already, and that has to stay. -/
def Stays (c : Configuration) (s : FileSystem) (p : Path) : Prop :=
  c.overwrite = .skip ∧ s.contains p = true

/-- What a request comes to under its configuration. -/
structure Effect (readers : Readers) (c : Configuration) (s : FileSystem) (r : RenderRequest) (o : Outcome) :
    Prop where
  /-- Without an output file no file is changed, and the text is printed. -/
  printed : r.output = none → o.files = s ∧ ∀ text, o.result = .ok text ↔ Emits readers c s r text
  /-- Where what is at the output path has to stay no file is changed. -/
  kept : ∀ output, r.output = some output → Stays c s (c.outputDirectory.join output) →
    o.files = s ∧ ((∃ report, o.result = .ok report) ↔ ∃ text, Emits readers c s r text)
  /-- Else the text is written to the output file, and to no other one. If there is a text but it is not
  written, a directory or the file could not be made. -/
  written : ∀ output, r.output = some output → ¬Stays c s (c.outputDirectory.join output) →
    (∀ report, o.result = .ok report → ∃ text, Emits readers c s r text ∧
      s.Written (c.outputDirectory.join output) text o.files) ∧
    ∀ e, o.result = .error e → (∀ text, ¬Emits readers c s r text) ∨
      (∃ parent, e = .directory parent) ∨ e = .file (c.outputDirectory.join output)

end ClassScribe.CommandLine
