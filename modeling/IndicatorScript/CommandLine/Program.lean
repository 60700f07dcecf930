import IndicatorScript.CommandLine.Export
import IndicatorScript.CommandLine.Log
import IndicatorScript.CommandLine.Options
import IndicatorScript.Example
import IndicatorScript.Panel.Run

/-!
# The command line

Runs a script over the bars of a table and prints a summary of the result, or only checks the script. The exit status
is 0 for success, 1 for input that cannot be found or used, and 2 for arguments or a script that are wrong. A few
failures end the program without a status; they are the `Crash`es.
-/

namespace IndicatorScript.CommandLine

structure Host where
  interpreter : Interpreter Float
  files : Files

/-! ## Outcomes -/

structure Outcome where
  status : Nat
  /-- The lines printed. -/
  lines : List String := []
  /-- The path of the log file, if one is kept. -/
  log : Option String := none
  exported : Option WrittenFile := none
  /-- What is said besides, to whoever called the program. -/
  complaint : Option String := none

inductive Crash where
  | file (path : String) (e : FileError)
  /-- Settings are asked for without a path. -/
  | noConfigPath
  | settings (path : String) (e : SettingsError)
  | log (e : LogError)
  | incomparableLimit (typeName : String)
  | packed (e : Csv.PackedError)
  | table (e : Csv.TableError)
  /-- The parameter at this position has no value. -/
  | emptyParameter (position : Nat)
  | interrupted (e : Interruption Float)
  | unjoined (e : JoinError)
  | noDirectory (path : String)

def Crash.message : Crash → String
  | .file path e => e.message path
  | .noConfigPath => "expected str, bytes or os.PathLike object, not list"
  | .settings path e => e.message path
  | .log e => e.message
  | .incomparableLimit typeName => Limit.incomparableText typeName
  | .packed e => e.message
  | .table e => e.message
  | .emptyParameter position =>
      "dictionary update sequence element #" ++ toString position ++ " has length 0; 2 is required"
  | .interrupted (.badFrame e) => e.message
  | .interrupted (.badInput e) => e.message
  | .interrupted (.stopped guard) => guard.message
  | .unjoined e => e.message
  | .noDirectory path => "Cannot save file into a non-existent directory: '" ++ path ++ "'"

/-! ## Input -/

def settingsIn (interpreter : Interpreter Float) (path text : String) : Except Crash Settings :=
  match interpreter.readingGuard? text with
  | some guard => .error (.interrupted (.stopped guard))
  | none => (Settings.ofText text).mapError (.settings path)

def loadSettings (host : Host) : Option Given → Except Crash Settings
  | none => .ok {}
  | some .nothing => .error .noConfigPath
  | some (.text path) => do
      let text ← (host.files.read path).mapError (.file path)
      settingsIn host.interpreter path text

def nonempty (option : Option Given) : Option String := option.bind Given.nonempty?

def readSource (files : Files) (options : Options) : Except Crash (Except String String) :=
  match nonempty options.source, nonempty options.example? with
  | some source, _ => .ok (.ok source)
  | none, some name =>
      match Example.source? name with
      | some source => .ok (.ok source)
      | none => .ok (.error (Text.quoted (Example.unknownMessage name)))
  | none, none =>
      let path := (nonempty options.script).getD ""
      match files.read path with
      | .ok text => .ok (.ok (Text.unifyLineBreaks text))
      | .error e => if e.isSystem then .ok (.error (e.message path)) else .error (.file path e)

def normalize (frame : Frame Float) : Frame Float :=
  let columns := frame.columns.map fun (name, cells) => (normalName name, cells)
  let names := columns.map (·.1)
  if names.contains "date" && !names.contains stampColumn then
    { frame with columns := columns.map fun (name, cells) => (if name = "date" then stampColumn else name, cells) }
  else { frame with columns }

def readTable (files : Files) (path : String) : Except Crash String := do
  let target := files.expand path
  match Csv.Packing.ofName? path with
  | none => (files.read target).mapError (.file target)
  | some .zstandard => throw (.packed .noUnpacker)
  | some packing =>
      let text ← (files.readPacked packing target).mapError (.file target)
      text.mapError .packed

def loadBars (files : Files) (path : String) : Except Crash Csv.Table := do
  let text ← readTable files path
  let table ← (Csv.table text).mapError .table
  return { table with frame := normalize table.frame }

def parametersOf (options : Options) : Except Crash (Bindings (Value Float)) :=
  match options.parameters.findIdx? Option.isNone with
  | some position => .error (.emptyParameter position)
  | none => .ok (.ofList (options.parameters.filterMap id))

/-! ## Output -/

def summary (execution : Execution Float) : List String :=
  let study := execution.study
  [ "=== " ++ (if study.title = "" then "Untitled" else study.title) ++ " (" ++
      (if study.shortTitle = "" then "-" else study.shortTitle) ++ ") ===",
    "Overlay: " ++ (if study.overlay then "True" else "False"),
    "Bars: " ++ toString execution.series.length ]

def checkTarget (files : Files) (path : String) : Except Crash Unit := do
  let target := files.expand path
  let parent := (Path.ofText target).parent.text
  let isThere ← (files.isDirectory parent).mapError (.file parent)
  if !isThere then throw (.noDirectory parent)
  if Csv.Packing.ofName? path = some .zstandard then throw (.packed .noUnpacker)
  if let some e := files.blocked? target then throw (.file target e)

def report (files : Files) (options : Options) (log : Option String) (table : Csv.Table)
    (execution : Execution Float) : Except Crash Outcome := do
  if 1 < execution.width then throw (.unjoined (.severalValues execution.series.length execution.width))
  let rows ← (exportRows table execution.series).mapError .unjoined
  match nonempty options.exportTo with
  | none => return { status := 0, lines := summary execution, log }
  | some path =>
      checkTarget files path
      return {
        status := 0
        lines := summary execution ++ ["Series exported to " ++ path]
        log
        exported := some { path := files.expand path, packing := Csv.Packing.ofName? path, text := exportText rows } }

/-! ## Stages -/

section Stages

variable (host : Host) (options : Options)

def execute (log : Option String) (settings : Settings) (source path : String) : Except Crash Outcome := do
  let table ← loadBars host.files path
  let missing := missingColumns (table.frame.columns.map (·.1))
  if !missing.isEmpty then
    let names := Text.bracketed (missing.map Text.quoted)
    return { status := 1, lines := ["ERROR: CSV is missing required columns: " ++ names], log }
  let parameters ← parametersOf options
  let execution ←
    (host.interpreter.executeSource settings.limits source (.frame table.frame) parameters).mapError .interrupted
  match execution.failure with
  | none => report host.files options log table execution
  | some (.notCompiled e) =>
      return { status := 2, lines := ["ERROR: " ++ Fault.syntaxError.name ++ ": " ++ e.message], log }
  | some (.notEvaluated e) =>
      let name := (e.fault?.map Fault.name).getD ""
      return { status := 2, lines := ["ERROR: " ++ name ++ ": " ++ e.message], log }

def check (log : Option String) (settings : Settings) (source : String) : Except Crash Outcome :=
  match host.interpreter.compilingGuard? settings.limits source with
  | some guard => .error (.interrupted (.stopped guard))
  | none =>
      match validate settings.limits source with
      | some ⟨.tooDeep (.incomparable typeName), _⟩ => .error (.incomparableLimit typeName)
      | some e => .ok { status := 2, lines := ["ERROR: script is invalid: " ++ e.message], log }
      | none =>
          if options.validateOnly then .ok { status := 0, lines := ["Script is valid."], log }
          else
            match nonempty options.csv with
            | none =>
                .ok { status := 2, log, complaint := some "--csv is required unless --validate-only is given" }
            | some path => execute host options log settings source path

def helpLines : List String :=
  [ "Run or validate an indicator script",
    "",
    "  --csv FILE         table of bars: date or timestamp (optional), open, high, low, close, volume",
    "  --script FILE      the script",
    "  --source TEXT      the text of the script",
    "  --example NAME     a bundled example script",
    "  --param NAME=VALUE a parameter of the script (repeatable)",
    "  --config FILE      settings (YAML, section engine)",
    "  --validate-only    only check the script",
    "  --export FILE      write the plotted series as a table",
    "  --list-examples    list the bundled example scripts" ]

def runOptions : Except Crash Outcome :=
  if options.listExamples then .ok { status := 0, lines := Example.names }
  else if options.sources.all fun (_, given) => (nonempty given).isNone then
    .ok { status := 2, complaint := some "one of --script, --source or --example is required" }
  else do
    let settings ← loadSettings host options.config
    let log ← (openLog host.files settings).mapError .log
    match ← readSource host.files options with
    | .error text => return { status := 1, lines := ["ERROR: " ++ text], log }
    | .ok source => check host options log settings source

end Stages

def run (host : Host) (arguments : List String) : Except Crash Outcome :=
  match Options.ofArguments arguments with
  | .ok options => runOptions host options
  | .error .help => .ok { status := 0, lines := helpLines }
  | .error usage => .ok { status := 2, complaint := some usage.reason }

end IndicatorScript.CommandLine
