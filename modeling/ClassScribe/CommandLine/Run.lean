import ClassScribe.CommandLine.Arguments
import ClassScribe.Schema.SchemaFile
import ClassScribe.Template.Directory
import ClassScribe.Template.Validation

/-! # Runs

A run of the program as a function of its arguments, the environment and the files. Everything is
read and rendered before the first file is written, so a run that fails changes no file. The readers of
documents are whatever they are. -/

namespace ClassScribe.CommandLine

/-- The readers of configuration files and of schema files. -/
structure Readers where
  settings : SettingsFormat → String → Option Settings
  schemas : SchemaFormat → DocumentReader

variable (readers : Readers)

/-! ### Failures -/

/-- Why a run fails. -/
inductive Failure
  | configuration (cause : ConfigurationError)
  | unwritableConfiguration
  | templates (directory : Path) (cause : Template.Error)
  | template (cause : Template.Error)
  | invalidTemplates (cause : Template.Error)
  | schema (path : Path) (cause : SchemaError)
  | rendering (className : String) (cause : Template.Error)
  | directory (path : Path)
  | file (path : Path)
  /-- The program has stopped while it was rendering. -/
  | halted (cause : Halt)
  deriving DecidableEq, Repr

namespace Failure

/-- What went wrong, in one sentence. -/
def message : Failure → String
  | .configuration _ => "failed to load configuration"
  | .unwritableConfiguration => "failed to serialize configuration"
  | .templates below _ => "failed to load templates from " ++ below.text
  | .template cause => cause.message
  | .invalidTemplates _ => "template set is invalid"
  | .schema path _ => "failed to load " ++ path.text
  | .rendering className _ => "failed to render class " ++ className
  | .directory path => "failed to create directory " ++ path.text
  | .file path => "failed to write " ++ path.text
  | .halted cause => cause.message

/-- The exit code of a run that fails. -/
def exitCode : Failure → Nat
  | .halted _ => 101
  | _ => 1

/-- A class that cannot be rendered. A halt is not reported with the class. -/
def ofRendering (className : String) : Template.Error → Failure
  | .halted cause => .halted cause
  | cause => .rendering className cause

/-- The text of a template error that is the cause of a failure, unless a file cannot be read. -/
def causeText? : Template.Error → Option String
  | .unreadable => none
  | e => some e.message

/-- Why it went wrong, as far as the program itself knows. -/
def cause? : Failure → Option String
  | .configuration .unreadable => none
  | .configuration cause => some cause.message
  | .templates _ cause | .invalidTemplates cause | .rendering _ cause => causeText? cause
  | .schema _ (.unsupportedFormat path) => some (SchemaError.unsupportedFormat path).message
  | _ => none

end Failure

/-! ### Outcomes -/

/-- What a run leaves: what it prints or why it fails, and the files. -/
structure Outcome where
  result : Except Failure String
  files : FileSystem

/-! ### Rendering -/

/-- The shipped templates with those of the configured directory over them. -/
def loadTemplates (c : Configuration) (s : FileSystem) : Except Failure Template.Library := do
  let l ← (Shipped.library c.spacing).mapError .template
  match c.templatesDirectory with
  | none => pure l
  | some directory =>
    match l.loadDirectory c.spacing s directory with
    | (l, .ok _) => pure l
    | (_, .error cause) => .error (.templates directory cause)

/-- The name and the source of the class of a schema file. -/
def renderSource (c : Configuration) (s : FileSystem) (schema : Path) (template : Option String) :
    Except Failure String := do
  let l ← loadTemplates c s
  let emitter : Emitter := ⟨l, c.templates⟩
  let spec ← (ClassSpec.load readers.schemas s schema).mapError (.schema schema)
  let spec := spec.resolveCollisions.rewrap c.wrapWidth
  let chain ← (match template with
    | some leaf => l.chainFor leaf
    | none => emitter.chainFor spec.kind).mapError .template
  (emitter.render spec chain).mapError (.ofRendering spec.name)

/-- What was done about an output file. -/
inductive WriteResult
  | created
  | overwritten
  | skipped
  deriving DecidableEq, Repr

/-- The word for what was done. -/
def WriteResult.name : WriteResult → String
  | .created => "created"
  | .overwritten => "overwritten"
  | .skipped => "skipped"

/-- Makes the directory of a file. -/
def makeParent (s : FileSystem) (p : Path) : Except Failure FileSystem :=
  match p.parent? with
  | none => .ok s
  | some parent =>
    if parent.text = "" then .ok s
    else
      match s.makeDirectories? parent with
      | some s => .ok s
      | none => .error (.directory parent)

/-- Writes a source to a file, unless there is one already that has to stay. -/
def writeSource (s : FileSystem) (p : Path) (source : String) (policy : OverwritePolicy) :
    Except Failure WriteResult × FileSystem :=
  if s.contains p && policy = .skip then (.ok .skipped, s)
  else
    match makeParent s p with
    | .error e => (.error e, s)
    | .ok withParent =>
      match withParent.write? p source with
      | none => (.error (.file p), withParent)
      | some written => (.ok (if s.contains p then .overwritten else .created), written)

/-- Renders a class and writes or prints its source. -/
def runRender (c : Configuration) (s : FileSystem) (r : RenderRequest) : Outcome :=
  let c := { c with
    templatesDirectory := r.templatesDirectory.or c.templatesDirectory
    overwrite := r.policy.getD c.overwrite }
  match renderSource readers c s r.schema r.template, r.output with
  | .error e, _ => ⟨.error e, s⟩
  | .ok source, none => ⟨.ok source, s⟩
  | .ok source, some output =>
    let p := c.outputDirectory.join output
    let (result, s) := writeSource s p source c.overwrite
    ⟨result.map fun w => w.name ++ " " ++ p.text ++ "\n", s⟩

/-! ### The other commands -/

/-- Composes all chains of the templates and prints them. -/
def runCheck (c : Configuration) (s : FileSystem) (directory : Option Path) :
    Except Failure String := do
  let c := { c with templatesDirectory := directory.or c.templatesDirectory }
  let l ← loadTemplates c s
  let chains ← l.validate.mapError .invalidTemplates
  let number (n : Nat) : String := String.ofList (digitsOf n)
  pure (String.join (chains.map (·.display ++ "\n")) ++ number l.names.length ++ " templates, " ++
    number chains.length ++ " chains resolved\n")

/-- Prints the configuration. -/
def runConfig (c : Configuration) : Except Failure String :=
  match c.toToml? with
  | some text => .ok text
  | none => .error .unwritableConfiguration

/-- Runs what is asked for. -/
def run (i : Invocation) (environment : List (String × String)) (s : FileSystem) : Outcome :=
  match Configuration.load readers.settings s i.config environment with
  | .error cause => ⟨.error (.configuration cause), s⟩
  | .ok c =>
    match i.command with
    | .render request => runRender readers c s request
    | .check directory => ⟨runCheck c s directory, s⟩
    | .config => ⟨runConfig c, s⟩

end ClassScribe.CommandLine
