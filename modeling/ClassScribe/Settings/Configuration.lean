import ClassScribe.Emission.Emitter
import ClassScribe.Settings.Source
import ClassScribe.Toml.Quoted

/-! # Configurations

Where templates are found and sources are written to, and how. A configuration is read from a file, if
one is given, and from the environment, whose settings win; what neither sets has a standard value. -/

namespace ClassScribe

/-- What is done about a file that is there already. -/
inductive OverwritePolicy
  | overwrite
  | skip
  deriving DecidableEq, Repr

/-- The name of a policy. -/
def OverwritePolicy.name : OverwritePolicy → String
  | .overwrite => "overwrite"
  | .skip => "skip"

/-- The policy of a name in any case. -/
def OverwritePolicy.ofName? (name : String) : Option OverwritePolicy :=
  [OverwritePolicy.overwrite, .skip].find? (·.name == Setting.lowered name)

/-- A configuration. -/
structure Configuration where
  templatesDirectory : Option Path
  outputDirectory : Path
  wrapWidth : Nat
  trimBlocks : Bool
  lstripBlocks : Bool
  overwrite : OverwritePolicy
  templates : LeafNames
  deriving DecidableEq, Repr

/-- Why there is no configuration. -/
inductive ConfigurationError
  | unreadable
  | zeroWidth
  | emptyName (field : String)
  deriving DecidableEq, Repr

/-- The text of the failure. -/
def ConfigurationError.message : ConfigurationError → String
  | .unreadable => "Configuration error"
  | .zeroWidth => "Invalid configuration: wrap_width must be greater than 0"
  | .emptyName field => "Invalid configuration: " ++ field ++ " must not be empty"

namespace Configuration

/-- The standard configuration. -/
def standard : Configuration :=
  { templatesDirectory := none
    outputDirectory := ⟨"."⟩
    wrapWidth := Naming.descriptionWidth
    trimBlocks := true
    lstripBlocks := true
    overwrite := .overwrite
    templates := .standard }

/-- The options for parsing templates. -/
def spacing (c : Configuration) : Template.Spacing := ⟨c.trimBlocks, c.lstripBlocks⟩

/-! ### Reading -/

/-- Reads a setting that may be missing. -/
def orStandard {α : Type} (read : Setting → Option α) (standard : α) : Option Setting → Option α
  | some s => read s
  | none => some standard

/-- A directory, or none. -/
def directory? : Setting → Option (Option Path)
  | .nothing => some none
  | s => s.toText?.map fun text => some ⟨text⟩

/-- A policy: its name, or a table with its name as the only key. -/
def policy? : Setting → Option OverwritePolicy
  | .text name => OverwritePolicy.ofName? name
  | .table [(name, _)] => OverwritePolicy.ofName? name
  | _ => none

/-- The names of leaves: a table, or a list of them in their order. -/
def leafNames? (s : Setting) : Option LeafNames := do
  let (struct, enum, function) ← match s with
    | .table entries =>
      some (entries.lookup "struct_template", entries.lookup "enum_template",
        entries.lookup "function_template")
    | .list items => some (items[0]?, items[1]?, items[2]?)
    | _ => none
  let struct ← orStandard Setting.toText? LeafNames.standard.struct struct
  let enum ← orStandard Setting.toText? LeafNames.standard.enum enum
  let function ← orStandard Setting.toText? LeafNames.standard.function function
  pure ⟨struct, enum, function⟩

/-- The configuration of settings. -/
def ofSettings? (s : Settings) : Option Configuration := do
  let d := standard
  let templatesDirectory ← orStandard directory? none (s.lookup "templates_dir")
  let outputDirectory ←
    orStandard (fun s => s.toText?.map (⟨·⟩)) d.outputDirectory (s.lookup "output_dir")
  let wrapWidth ← orStandard Setting.toCount? d.wrapWidth (s.lookup "wrap_width")
  let trimBlocks ← orStandard Setting.toFlag? d.trimBlocks (s.lookup "trim_blocks")
  let lstripBlocks ← orStandard Setting.toFlag? d.lstripBlocks (s.lookup "lstrip_blocks")
  let policy ← orStandard policy? d.overwrite (s.lookup "overwrite")
  let templates ← orStandard leafNames? d.templates (s.lookup "templates")
  pure { templatesDirectory, outputDirectory, wrapWidth, trimBlocks, lstripBlocks, overwrite := policy,
         templates }

/-- The leaf names with the keys that they are set by. -/
def namedLeaves (c : Configuration) : List (String × String) :=
  [("struct_template", c.templates.struct), ("enum_template", c.templates.enum),
   ("function_template", c.templates.function)]

/-- Checks what settings can say but a run cannot use. -/
def validate (c : Configuration) : Except ConfigurationError Unit :=
  if c.wrapWidth = 0 then .error .zeroWidth
  else
    match c.namedLeaves.find? fun (_, name) => Text.isBlankString name with
    | some (key, _) => .error (.emptyName ("templates." ++ key))
    | none => .ok ()

/-- The configuration of a file, if one is given, and an environment. -/
def load (readers : SettingsFormat → String → Option Settings) (s : FileSystem) (file : Option Path)
    (environment : List (String × String)) : Except ConfigurationError Configuration := do
  let source := match file with
    | some p => Settings.ofFile? readers s p
    | none => some []
  match source with
  | none => .error .unreadable
  | some source =>
    let settings :=
      ((Setting.table []).addSource source).addSource (Settings.ofEnvironment environment)
    match ofSettings? settings.entriesOf with
    | none => .error .unreadable
    | some c => do
      c.validate
      pure c

/-! ### Writing -/

/-- The text of a flag. -/
def flagText (b : Bool) : String := if b then "true" else "false"

/-- The greatest width that can be written. -/
def maxWidth : Nat := 0x7FFFFFFFFFFFFFFF

/-- The configuration as a TOML text, unless its width is too large for one. -/
def toToml? (c : Configuration) : Option String :=
  if maxWidth < c.wrapWidth then none
  else
    some (String.join
      ((match c.templatesDirectory with
        | some p => [Toml.textLine "templates_dir" p.text]
        | none => []) ++
      [Toml.textLine "output_dir" c.outputDirectory.text,
       Toml.wordLine "wrap_width" (String.ofList (digitsOf c.wrapWidth)),
       Toml.wordLine "trim_blocks" (flagText c.trimBlocks),
       Toml.wordLine "lstrip_blocks" (flagText c.lstripBlocks),
       Toml.textLine "overwrite" c.overwrite.name,
       "\n[templates]\n"] ++
      c.namedLeaves.map fun (key, name) => Toml.textLine key name))

/-- The written form of a configuration; a missing directory is left out. -/
def toValue (c : Configuration) : Value :=
  .mapping (Value.ofFields
    ((match c.templatesDirectory with
      | some p => [("templates_dir", .text p.text)]
      | none => []) ++
    [("output_dir", .text c.outputDirectory.text), ("wrap_width", .int c.wrapWidth),
     ("trim_blocks", .bool c.trimBlocks), ("lstrip_blocks", .bool c.lstripBlocks),
     ("overwrite", .text c.overwrite.name),
     ("templates", .mapping (Value.ofFields
       (c.namedLeaves.map fun (key, name) => (key, Value.text name))))]))

end Configuration
end ClassScribe
