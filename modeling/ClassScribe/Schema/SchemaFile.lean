import ClassScribe.Files.System
import ClassScribe.Schema.Decoding

/-! # Schema files

A schema file holds the specification of one class. Its extension tells its format, and each format has its
reader. -/

namespace ClassScribe

/-- The formats of schema files. -/
inductive SchemaFormat
  | json
  | yaml
  deriving DecidableEq, Repr

namespace SchemaFormat

/-- The format of a file. -/
def ofPath? (p : Path) : Option SchemaFormat :=
  match p.extension? with
  | some "json" => some .json
  | some "yaml" | some "yml" => some .yaml
  | _ => none

end SchemaFormat

/-- Why there is no specification. -/
inductive SchemaError
  | unsupportedFormat (path : String)
  | unreadable
  | malformed (format : SchemaFormat)
  deriving DecidableEq, Repr

/-- The text of the failure; for a malformed file it only names the format. -/
def SchemaError.message : SchemaError → String
  | .unsupportedFormat path => "Unsupported schema format: " ++ path
  | .unreadable => "IO error"
  | .malformed .json => "Invalid JSON schema"
  | .malformed .yaml => "Invalid YAML schema"

namespace ClassSpec

variable (readers : SchemaFormat → DocumentReader)

/-- The specification of a text. -/
def parse (format : SchemaFormat) (content : String) : Except SchemaError ClassSpec :=
  match (readers format).spec? content with
  | some s => .ok s
  | none => .error (.malformed format)

/-- The specification of a file. The format is looked at first. -/
def load (s : FileSystem) (p : Path) : Except SchemaError ClassSpec :=
  match SchemaFormat.ofPath? p with
  | none => .error (.unsupportedFormat p.text)
  | some format =>
    match s.read? p with
    | none => .error .unreadable
    | some content => parse readers format content

end ClassSpec
end ClassScribe
