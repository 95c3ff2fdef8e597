import ClassScribe.CommandLine.Formats

/-! # The program

Looks at the files and variables that a run needs, runs it, and writes what it has changed. -/

namespace ClassScribe.CommandLine

/-! ### Looking at files -/

/-- The text of a place from the top of the disk. -/
def placeText (place : List String) : String := "/" ++ Text.joinWith "/" place

/-- What is on the disk at a place. -/
partial def readTree (place : List String) : IO (Option FileTree) := do
  try
    let here ← IO.FS.realPath (placeText place)
    if ← here.isDir then
      let mut entries := []
      for e in ← here.readDir do
        if let some t ← readTree (place ++ [e.fileName]) then
          entries := (e.fileName, t) :: entries
      pure (some (.directory entries))
    else
      let bytes ← IO.FS.readBinFile here
      pure (some (.file (String.fromUTF8? bytes)))
  catch _ => pure none

/-- Whether there is a directory on the disk at a place. -/
def isDirectoryAt (place : List String) : IO Bool := do
  try
    let here ← IO.FS.realPath (placeText place)
    here.isDir
  catch _ => pure false

/-- Puts in the directories above a place, and the file that stands in the way if there is one. -/
def lookAbove (s : FileSystem) (place : List String) : IO FileSystem :=
  ((List.range place.length).map place.take).foldlM (fun (s : FileSystem) above => do
    if (s.root.get? above).isSome then pure s
    else if ← isDirectoryAt above then pure { s with root := s.root.put above .empty }
    else
      match ← readTree above with
      | some t => pure { s with root := s.root.put above t }
      | none => pure s) s

/-- The place that a path names, whatever is there. -/
def namedPlace (s : FileSystem) (p : Path) : List String :=
  p.steps.foldl (fun place step => match step with
    | .stay => place
    | .up => place.dropLast
    | .down name => place ++ [name]) (if p.isAbsolute then [] else s.working)

/-- Puts in what is at a path. A directory takes its content along if that counts. -/
def look (deep : Bool) (s : FileSystem) (p : Path) : IO FileSystem := do
  let place := namedPlace s p
  let s ← lookAbove s place
  if !deep && (← isDirectoryAt place) then
    if (s.root.get? place).isSome then pure s else pure { s with root := s.root.put place .empty }
  else
    match ← readTree place with
    | some t => pure { s with root := s.root.put place t }
    | none => pure s

/-- The files that may hold the configuration. -/
def configurationFiles (i : Invocation) : List Path :=
  match i.config with
  | none => []
  | some p => p :: SettingsFormat.extensions.map fun (extension, _) => ⟨p.text ++ "." ++ extension⟩

/-- Looks at everything that a run needs. -/
def lookFor (i : Invocation) (environment : List (String × String)) : IO FileSystem := do
  let here : Path := ⟨(← IO.FS.realPath ".").toString⟩
  let start : FileSystem := ⟨.empty, []⟩
  let working := namedPlace start here
  let s ← look false { start with working } ⟨"."⟩
  let s ← (configurationFiles i).foldlM (look false) s
  match Configuration.load Readers.standard.settings s i.config environment, i.command with
  | .error _, _ | .ok _, .config => pure s
  | .ok c, .check directory => (directory.or c.templatesDirectory).toList.foldlM (look true) s
  | .ok c, .render r => do
    let s ← (r.templatesDirectory.or c.templatesDirectory).toList.foldlM (look true) s
    let s ← look false s r.schema
    (r.output.map c.outputDirectory.join).toList.foldlM (look false) s

/-! ### Variables -/

/-- The names of the variables that a run looks at. -/
def variableNames : List String :=
  ["CLASSGEN_TEMPLATES_DIR", "CLASSGEN_OUTPUT_DIR", "CLASSGEN_WRAP_WIDTH", "CLASSGEN_TRIM_BLOCKS",
   "CLASSGEN_LSTRIP_BLOCKS", "CLASSGEN_OVERWRITE", "CLASSGEN_TEMPLATES__STRUCT_TEMPLATE",
   "CLASSGEN_TEMPLATES__ENUM_TEMPLATE", "CLASSGEN_TEMPLATES__FUNCTION_TEMPLATE"]

/-- The variables that are set. -/
def readVariables : IO (List (String × String)) :=
  variableNames.filterMapM fun name => do
    pure ((← IO.getEnv name).map (name, ·))

/-! ### Writing -/

/-- Writes the files that a run has changed. -/
def writeChanges (before after : FileSystem) : IO Unit :=
  for (p, content) in FileTree.changes ⟨"/"⟩ before.root after.root do
    if let some text := content then
      if let some parent := p.parent? then IO.FS.createDirAll parent.text
      IO.FS.writeFile p.text text

/-- How the program is called. -/
def usage : String :=
  "Usage: " ++ programName ++ " [-v] [-c FILE] render SCHEMA [-t LEAF] [--templates-dir DIR]" ++
    " [-o FILE] [--overwrite | --skip]\n" ++
  "       " ++ programName ++ " [-v] [-c FILE] check [--templates-dir DIR]\n" ++
  "       " ++ programName ++ " [-v] [-c FILE] config\n"

/-- Prints why a run has failed. -/
def printFailure (e : Failure) : IO Unit := do
  IO.eprintln ((if let .halted _ := e then "" else "Error: ") ++ e.message)
  if let some cause := e.cause? then IO.eprintln ("\nCaused by:\n    " ++ cause)

/-- Runs the program and returns its exit code. -/
def runProgram (arguments : List String) : IO UInt32 := do
  match Invocation.ofArguments arguments with
  | .error .help => IO.print usage; pure 0
  | .error .version => IO.print versionText; pure 0
  | .error .misuse => IO.eprint usage; pure 2
  | .ok i =>
    let environment ← readVariables
    let before ← lookFor i environment
    let r := run .standard i environment before
    writeChanges before r.files
    match r.result with
    | .ok text => IO.print text; pure 0
    | .error e => printFailure e; pure (.ofNat e.exitCode)

end ClassScribe.CommandLine

/-- The program. -/
def main (arguments : List String) : IO UInt32 := ClassScribe.CommandLine.runProgram arguments
