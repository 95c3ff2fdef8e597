import ClassScribe.Ini.Document
import ClassScribe.Json.Parser
import ClassScribe.Json5.Document
import ClassScribe.Ron.Document
import ClassScribe.Settings.Source
import ClassScribe.Toml.Document
import ClassScribe.Yaml.Atom

/-! # Formats of settings

What the texts of configuration files are read as in each format. -/

namespace ClassScribe

/-- The settings of a document, which has to be a table. -/
def Settings.ofTable? : Option Setting → Option Settings
  | some (.table entries) => some entries
  | _ => none

/-! ### JSON -/

mutual
/-- The setting of a value. An integer that a signed word does not hold is a floating-point number. -/
def Setting.ofValue : Value → Setting
  | .none => .nothing
  | .bool b => .flag b
  | .number n =>
    match n.signed?, n.toBinary64? with
    | some i, _ => .int i
    | none, some x => .float (.finite x)
    | none, none => .nothing
  | .text s => .text s
  | .sequence items => .list (Setting.ofValues items)
  | .mapping fields => .table (Setting.ofFields fields)
/-- The settings of values. -/
def Setting.ofValues : List Value → List Setting
  | [] => []
  | v :: rest => Setting.ofValue v :: Setting.ofValues rest
/-- The settings of fields. -/
def Setting.ofFields : List (String × Value) → Settings
  | [] => []
  | (key, v) :: rest => (key, Setting.ofValue v) :: Setting.ofFields rest
end

/-- The settings of a JSON text. -/
def Settings.ofJson? (content : String) : Option Settings :=
  match Json.parseValue? content with
  | some (.mapping fields) => some (Setting.ofFields fields)
  | _ => none

/-! ### YAML -/

/-- The integer of a plain scalar. -/
def Setting.plainInteger? : List Char → Option Setting
  | '0' :: 'x' :: digits => Setting.integer? 16 digits
  | '0' :: 'o' :: digits => Setting.integer? 8 digits
  | '+' :: digits => Setting.integer? 10 digits
  | digits => Setting.integer? 10 digits

/-- The setting of a plain scalar. Fewer words count as nulls and flags than in specifications. -/
def Setting.ofPlain? (content : String) : Option Setting :=
  match content, Setting.plainInteger? content.toList with
  | "", _ | "~", _ | "null", _ => some .nothing
  | "true", _ => some (.flag true)
  | "false", _ => some (.flag false)
  | _, some i => some i
  | _, none =>
    if Yaml.isUnbounded content.toList then none
    else
      match Extended.ofText? content.toList with
      | some x => some (.float x)
      | none => some (.text content)

/-- The setting of a scalar with a standard tag. -/
def Setting.ofTagged? (tag text : String) : Option Setting :=
  if tag = Yaml.standardTag "bool" then
    some (if text = "true" then .flag true else if text = "false" then .flag false else .nothing)
  else if tag = Yaml.standardTag "int" then
    match Setting.ofPlain? text with
    | some (.int i) => some (.int i)
    | _ => some .nothing
  else if tag = Yaml.standardTag "float" then
    if Yaml.isUnbounded text.toList then none
    else some (((Extended.ofText? text.toList).map .float).getD .nothing)
  else if tag = Yaml.standardTag "null" then some .nothing
  else some (.text text)

/-- The setting of a scalar. -/
def Setting.ofScalar? (tag : Option String) (text : String) (plain : Bool) : Option Setting :=
  match tag, plain with
  | _, false => some (.text text)
  | some tag, true => Setting.ofTagged? tag text
  | none, true => Setting.ofPlain? text

/-- The name of an entry: a text, or an integer as it is printed. -/
def Setting.keyText? : Setting → Option String
  | .text s => some s
  | .int i => some (String.ofList (intText i))
  | _ => none

mutual
/-- The setting of a node. At most `hops` aliases are followed one after the other; a node that is
inside itself has no setting. -/
def Setting.ofNode? (d : Yaml.Document) (hops : Nat) (n : Yaml.Node Nat) : Option Setting :=
  match n with
  | .scalar _ tag content plain => Setting.ofScalar? tag content plain
  | .sequence _ _ items => (Setting.ofNodes? d hops items).map .list
  | .mapping _ _ pairs => (Setting.ofPairs? d hops pairs).map .table
  | .alias number =>
    match hops with
    | 0 => some .nothing
    | hops + 1 => Setting.ofNode? d hops ((d.anchors.lookup number).getD .empty)
termination_by (hops, sizeOf n)
/-- The settings of nodes. -/
def Setting.ofNodes? (d : Yaml.Document) (hops : Nat) (ns : List (Yaml.Node Nat)) :
    Option (List Setting) :=
  match ns with
  | [] => some []
  | n :: rest => do
    let s ← Setting.ofNode? d hops n
    let more ← Setting.ofNodes? d hops rest
    pure (s :: more)
termination_by (hops, sizeOf ns)
/-- The settings of pairs; of two pairs with one key the later one counts. -/
def Setting.ofPairs? (d : Yaml.Document) (hops : Nat) (ps : List (Yaml.Node Nat × Yaml.Node Nat)) :
    Option Settings :=
  match ps with
  | [] => some []
  | (k, v) :: rest => do
    let key ← (← Setting.ofNode? d hops k).keyText?
    let s ← Setting.ofNode? d hops v
    let more ← Setting.ofPairs? d hops rest
    pure (if (more.lookup key).isSome then more else (key, s) :: more)
termination_by (hops, sizeOf ps)
end

/-- The settings of a YAML text; one without a document has none. -/
def Settings.ofYaml? (content : String) : Option Settings := do
  match ← Yaml.Document.parse? content.toList with
  | none => pure []
  | some d =>
    Settings.ofTable? (Setting.ofNode? d d.anchors.length d.root)

/-! ### All formats -/

/-- The settings of a text. -/
def SettingsFormat.read? (format : SettingsFormat) (content : String) : Option Settings :=
  match format with
  | .toml => Toml.parse? content.toList
  | .json => Settings.ofJson? content
  | .yaml => Settings.ofYaml? content
  | .ini => Ini.parse? content.toList
  | .ron => Settings.ofTable? (Ron.parse? content.toList)
  | .json5 => Settings.ofTable? (Json5.parse? content.toList)

end ClassScribe
