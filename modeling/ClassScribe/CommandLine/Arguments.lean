import ClassScribe.Files.Path
import ClassScribe.Settings.Configuration

/-! # Arguments

What the arguments of the program ask for. Options may stand before or behind the other arguments; a
value follows its option or is attached to it. The options of the program are known to its commands
too, where they count more. -/

namespace ClassScribe.CommandLine

/-- The name of the program. -/
def programName : String := "classgen"

/-- The line that tells the version. -/
def versionText : String := programName ++ " 0.1.0\n"

/-! ### Options -/

/-- The options of the program and its commands. -/
inductive Opt
  | help
  | version
  | verbose
  | config
  | template
  | templatesDirectory
  | output
  | overwrite
  | skip
  deriving DecidableEq, Repr

/-- What kind of value an option takes. A path may not be empty. -/
inductive ValueKind
  | none
  | text
  | path
  deriving DecidableEq, Repr

namespace Opt

/-- The long name. -/
def long : Opt → String
  | .help => "help"
  | .version => "version"
  | .verbose => "verbose"
  | .config => "config"
  | .template => "template"
  | .templatesDirectory => "templates-dir"
  | .output => "output"
  | .overwrite => "overwrite"
  | .skip => "skip"

/-- The short name. -/
def short? : Opt → Option Char
  | .help => some 'h'
  | .version => some 'V'
  | .verbose => some 'v'
  | .config => some 'c'
  | .template => some 't'
  | .output => some 'o'
  | _ => Option.none

/-- The kind of value. -/
def valueKind : Opt → ValueKind
  | .config | .templatesDirectory | .output => .path
  | .template => .text
  | _ => .none

end Opt

/-- What a list of arguments may hold. -/
structure Level where
  options : List Opt
  /-- How many other arguments there may be. -/
  operands : Nat
  /-- The names that end the list and start a command. -/
  commands : List String

namespace Level

/-- The options that every level knows. -/
def common : List Opt := [.help, .verbose, .config]

/-- The program itself. -/
def program : Level := ⟨.version :: common, 0, ["render", "check", "config", "help"]⟩

/-- The command that renders a class. -/
def render : Level :=
  ⟨[.template, .templatesDirectory, .output, .overwrite, .skip] ++ common, 1, []⟩

/-- The command that checks the templates. -/
def check : Level := ⟨.templatesDirectory :: common, 0, []⟩

/-- The command that prints the configuration. -/
def config : Level := ⟨common, 0, []⟩

/-- The option of a long name. -/
def long? (l : Level) (name : String) : Option Opt := l.options.find? (·.long == name)

/-- The option of a short name. -/
def short? (l : Level) (name : Char) : Option Opt := l.options.find? (·.short? == some name)

end Level

/-! ### Reading a level -/

/-- Why the arguments ask for nothing to be run. -/
inductive Stop
  | help
  | version
  | misuse
  deriving DecidableEq, Repr

/-- What has been read of a level. -/
structure Found where
  /-- The options with their values; an option without a value has an empty one. -/
  options : List (Opt × String)
  operands : List String
  deriving Repr

namespace Found

/-- Nothing. -/
def empty : Found := ⟨[], []⟩

/-- The value of an option. -/
def value? (f : Found) (o : Opt) : Option String := f.options.lookup o

/-- Whether an option is there. -/
def has (f : Found) (o : Opt) : Bool := (f.value? o).isSome

/-- The path that is the value of an option. -/
def path? (f : Found) (o : Opt) : Option Path := (f.value? o).map (⟨·⟩)

/-- Adds an option, which may be there only once. -/
def addOption (f : Found) (o : Opt) (value : String) : Except Stop Found :=
  match o with
  | .help => .error .help
  | .version => .error .version
  | _ =>
    if f.has o || (o.valueKind = .path && value = "") then .error .misuse
    else .ok { f with options := (o, value) :: f.options }

/-- Adds an argument that belongs to no option. -/
def addOperand (f : Found) (level : Level) (operand : String) : Except Stop Found :=
  if level.operands ≤ f.operands.length || operand = "" then .error .misuse
  else .ok { f with operands := f.operands ++ [operand] }

end Found

/-- A level while it is read: what has been found, and an option that waits for its value. -/
structure Progress where
  found : Found
  waiting : Option Opt

namespace Progress

/-- Adds a long option, with an attached value if there is one. -/
def addLong (p : Progress) (level : Level) (name : String) (value : Option String) :
    Except Stop Progress :=
  match level.long? name, value with
  | none, _ => .error .misuse
  | some o, none =>
    if o.valueKind = .none then do
      let found ← p.found.addOption o ""
      pure ⟨found, none⟩
    else .ok ⟨p.found, some o⟩
  | some o, some value =>
    if o.valueKind = .none then .error .misuse
    else do
      let found ← p.found.addOption o value
      pure ⟨found, none⟩

/-- Adds short options that stand in one argument. What follows one with a value is its value, with or
without an equals sign. -/
def addShort (p : Progress) (level : Level) : List Char → Except Stop Progress
  | [] => .ok p
  | name :: rest =>
    match level.short? name with
    | none => .error .misuse
    | some o =>
      if o.valueKind = .none then do
        let found ← p.found.addOption o ""
        addShort ⟨found, none⟩ level rest
      else if rest.isEmpty then .ok ⟨p.found, some o⟩
      else do
        let value := if rest.head? = some '=' then rest.drop 1 else rest
        let found ← p.found.addOption o (String.ofList value)
        pure ⟨found, none⟩

/-- Adds an argument that is an option by its form, if it is one. An option that waits for its value
may not be followed by another one. -/
def addDashed? (p : Progress) (level : Level) (argument : String) : Option (Except Stop Progress) :=
  let apart (r : Except Stop Progress) : Except Stop Progress :=
    if p.waiting.isSome then .error .misuse else r
  match argument.toList with
  | '-' :: '-' :: name =>
    some (apart (match Text.splitOnce ['='] name with
      | some (name, value) => p.addLong level (String.ofList name) (some (String.ofList value))
      | none => p.addLong level (String.ofList name) none))
  | '-' :: c :: names => some (apart (p.addShort level (c :: names)))
  | _ => none

/-- Adds an argument that is no option by its form: the value of the option that waits for one, or an
operand. -/
def addPlain (p : Progress) (level : Level) (argument : String) : Except Stop Progress := do
  match p.waiting with
  | some o =>
    let found ← p.found.addOption o argument
    pure ⟨found, none⟩
  | none =>
    let found ← p.found.addOperand level argument
    pure ⟨found, none⟩

end Progress

/-- What a level holds, and the command that ends it with the arguments after it. -/
structure Read where
  found : Found
  command : Option (String × List String)

/-- Reads operands only. -/
def readOperands (level : Level) (f : Found) : List String → Except Stop Read
  | [] => .ok ⟨f, none⟩
  | a :: rest => do
    let f ← f.addOperand level a
    readOperands level f rest

/-- Reads a level. Behind two dashes there are only operands. -/
def readLevel (level : Level) (p : Progress) : List String → Except Stop Read
  | [] => if p.waiting.isSome then .error .misuse else .ok ⟨p.found, none⟩
  | a :: rest =>
    if p.waiting.isNone && level.commands.contains a then .ok ⟨p.found, some (a, rest)⟩
    else if a = "--" then
      if p.waiting.isSome then .error .misuse else readOperands level p.found rest
    else
      match p.addDashed? level a with
      | some (.ok p) => readLevel level p rest
      | some (.error e) => .error e
      | none =>
        match p.addPlain level a with
        | .ok p => readLevel level p rest
        | .error e => .error e

/-! ### What is asked for -/

/-- What the rendering command is given. -/
structure RenderRequest where
  schema : Path
  template : Option String
  templatesDirectory : Option Path
  output : Option Path
  /-- What to do about a file that is there, if the configuration does not count. -/
  policy : Option OverwritePolicy
  deriving Repr

/-- What is to be run. -/
inductive Command
  | render (request : RenderRequest)
  | check (templatesDirectory : Option Path)
  | config
  deriving Repr

/-- A command with the configuration file for it. -/
structure Invocation where
  config : Option Path
  command : Command
  deriving Repr

/-- The request of a rendering command. -/
def RenderRequest.ofFound (f : Found) : Except Stop RenderRequest :=
  match f.operands with
  | [schema] =>
    if f.has .overwrite && f.has .skip then .error .misuse
    else
      let policy : Option OverwritePolicy :=
        if f.has .overwrite then some .overwrite
        else if f.has .skip then some .skip
        else none
      .ok ⟨⟨schema⟩, f.value? .template, f.path? .templatesDirectory, f.path? .output, policy⟩
  | _ => .error .misuse

/-- Reads the arguments of a command. -/
def readCommand (name : String) (arguments : List String) : Except Stop (Found × Command) := do
  let start : Progress := ⟨.empty, none⟩
  match name with
  | "render" =>
    let r ← readLevel .render start arguments
    pure (r.found, .render (← RenderRequest.ofFound r.found))
  | "check" =>
    let r ← readLevel .check start arguments
    pure (r.found, .check (r.found.path? .templatesDirectory))
  | "config" =>
    let r ← readLevel .config start arguments
    pure (r.found, .config)
  | _ =>
    match arguments with
    | [] => .error .help
    | [command] =>
      .error (if Level.program.commands.contains command then .help else .misuse)
    | _ => .error .misuse

/-- Reads the arguments of the program. -/
def Invocation.ofArguments (arguments : List String) : Except Stop Invocation := do
  let program ← readLevel .program ⟨.empty, none⟩ arguments
  match program.command with
  | none => .error .misuse
  | some (name, rest) =>
    let (found, command) ← readCommand name rest
    pure ⟨(found.path? .config).or (program.found.path? .config), command⟩

end ClassScribe.CommandLine
