import IndicatorScript.CommandLine.Program

/-!
# The program

Reads the files that the arguments name, runs the command line on them, and prints and writes what comes out. Packed
files are neither unpacked nor written.
-/

namespace IndicatorScript.CommandLine

def notDirectoryCode : UInt32 := 20

def fileErrorOf : IO.Error → FileError
  | .noFileOrDirectory .. => .missing
  | .inappropriateType _ code _ => if code = notDirectoryCode then .notDirectory else .directory
  | .invalidArgument .. => .nameTooLong
  | .permissionDenied _ code text | .alreadyExists _ code text => .system code.toNat text
  | .otherError code text => .system code.toNat text
  | e => .system 0 (toString e)

def loadFile (path : String) : IO (Except FileError String) := do
  if path.contains '\x00' then return .error .nullCharacter
  try
    match String.fromUTF8? (← IO.FS.readBinFile path) with
    | some text => return .ok text
    | none => return .error (.undecodable "invalid UTF-8")
  catch e => return .error (fileErrorOf e)

def isDirectory (path : String) : IO Bool := do
  ((← IO.currentDir) / path).isDir

def loadFiles (options : Options) : IO Files := do
  let home ← IO.getEnv "HOME"
  let homeOf (user : String) : Option String := if user = "" then home else none
  let noFile (_ : String) : Except FileError String := .error .missing
  let places : Files := {
    read := noFile
    readPacked := fun _ _ => .error .missing
    isDirectory := fun _ => .ok false
    blocked? := fun _ => none
    logBlocked? := fun _ => none
    home? := homeOf }
  let table := (nonempty options.csv).map places.expand
  let paths := [nonempty options.script, nonempty options.config, table].filterMap id
  let contents ← paths.mapM fun path => return (path, ← loadFile path)
  let read (path : String) : Except FileError String := (contents.lookup path).getD (.error .missing)
  let target := places.expand ((nonempty options.exportTo).getD "")
  let targetIsDirectory ← isDirectory target
  let parentIsDirectory ← isDirectory (Path.ofText target).parent.text
  return { places with
    read
    readPacked := fun packing path => (read path).map (Csv.unpacked packing)
    isDirectory := fun _ => .ok parentIsDirectory
    blocked? := fun _ => if targetIsDirectory then some .directory else none }

def logOf (host : Host) (options : Options) : Option String :=
  if options.listExamples || options.sources.all fun (_, given) => (nonempty given).isNone then none
  else
    match loadSettings host options.config with
    | .ok settings => ((openLog host.files settings).toOption).join
    | .error _ => none

def makeLog (path : String) : IO (Option FileError) := do
  try
    IO.FS.createDirAll (Path.ofText path).parent.text
    IO.FS.withFile path .append fun _ => pure ()
    return none
  catch e => return some (fileErrorOf e)

def loadHost (options : Options) : IO Host := do
  let files ← loadFiles options
  let host : Host := ⟨.unbounded, files⟩
  match logOf host options with
  | none => return host
  | some path =>
      let blocked ← makeLog path
      return { host with files := { files with logBlocked? := fun _ => blocked } }

end IndicatorScript.CommandLine

open IndicatorScript IndicatorScript.CommandLine in
def main (arguments : List String) : IO UInt32 := do
  let host ← match Options.ofArguments arguments with
    | .ok options => loadHost options
    | .error _ => loadHost {}
  match run host arguments with
  | .error crash =>
      IO.eprintln crash.message
      return 1
  | .ok outcome =>
      outcome.lines.forM fun line => IO.println line
      outcome.complaint.forM fun text => IO.eprintln ("error: " ++ text)
      match outcome.exported with
      | none => return outcome.status.toUInt32
      | some ⟨path, none, text⟩ =>
          IO.FS.writeFile path text
          return outcome.status.toUInt32
      | some ⟨path, some _, _⟩ =>
          IO.eprintln ("cannot pack " ++ path)
          return 1
