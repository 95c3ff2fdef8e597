import ClassScribe.Files.System
import ClassScribe.Number.Numeral
import ClassScribe.Settings.KeyPath
import ClassScribe.Text.Letter

/-! # Sources of settings

Settings come from a file in one of six formats, each with its reader, and from the environment. A source
gives a table of settings, whose keys may be paths. -/

namespace ClassScribe

/-- The entries of a source. -/
abbrev Settings := List (String × Setting)

/-! ### Files -/

/-- The formats of configuration files. -/
inductive SettingsFormat
  | toml
  | json
  | yaml
  | ini
  | ron
  | json5
  deriving DecidableEq, Repr

namespace SettingsFormat

/-- The extensions of the formats. -/
def extensions : List (String × SettingsFormat) :=
  [("toml", .toml), ("json", .json), ("yaml", .yaml), ("yml", .yaml), ("ini", .ini), ("ron", .ron),
    ("json5", .json5)]

end SettingsFormat

/-- The configuration file that is meant by a path, with its format: the file itself, or one with an
extension added if there is no such file. -/
def Settings.locate? (s : FileSystem) (p : Path) : Option (Path × SettingsFormat) :=
  if s.isFile p then
    (p.extension?.bind (SettingsFormat.extensions.lookup ·)).map (p, ·)
  else
    SettingsFormat.extensions.findSome? fun (extension, format) =>
      let longer : Path := ⟨p.text ++ "." ++ extension⟩
      if s.isFile longer then some (longer, format) else none

/-- The settings of a configuration file. -/
def Settings.ofFile? (readers : SettingsFormat → String → Option Settings) (s : FileSystem) (p : Path) :
    Option Settings := do
  let (file, format) ← Settings.locate? s p
  readers format (← s.read? file)

/-! ### The environment -/

/-- The beginning of the names of variables with settings, in small letters. -/
def environmentLead : String := "classgen_"

/-- The integer of digits with a sign, if a signed word holds it. -/
def Setting.integer? (base : Nat) (s : List Char) : Option Setting :=
  let (negative, digits) := Extended.splitSign s
  (Numeral.value? base digits).bind fun n =>
    let i : Int := if negative then -n else n
    if Number.InSignedRange i then some (.int i) else none

/-- The setting of the value of a variable: a flag, a number or a text. -/
def Setting.ofVariable (value : String) : Setting :=
  match Setting.lowered value, Setting.integer? 10 value.toList with
  | "true", _ => .flag true
  | "false", _ => .flag false
  | _, some i => i
  | _, none =>
    match Extended.ofText? value.toList with
    | some x => .float x
    | none => .text value

/-- The text with a dot for every two underscores. -/
def Settings.dotted : List Char → List Char
  | '_' :: '_' :: rest => '.' :: dotted rest
  | c :: rest => c :: dotted rest
  | [] => []

/-- The settings of an environment. -/
def Settings.ofEnvironment (environment : List (String × String)) : Settings :=
  environment.filterMap fun (name, value) =>
    (Text.dropLead? environmentLead.toList (Text.lower name.toList)).map fun key =>
      (String.ofList (Settings.dotted key), Setting.ofVariable value)

end ClassScribe
