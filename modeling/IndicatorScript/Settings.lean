import IndicatorScript.Run
import IndicatorScript.Text.Line
import IndicatorScript.Yaml.Document

/-!
# Settings

The settings of a run are the entries of the `engine` section of a YAML document, over defaults. Entries with other
names have no effect, and values are taken as they are: whether a limit is a number shows when a count meets it.
-/

namespace IndicatorScript

open Yaml (Document)

structure Settings where
  logLevel : Yaml.Value := .text "INFO"
  /-- Where to write the log, besides the console. -/
  logFile : Yaml.Value := .null
  maxStatements : Yaml.Value := .integer 1000
  maxBars : Yaml.Value := .integer 100000
  maxNesting : Yaml.Value := .integer 50
  /-- Whether a place for the log is named at all. -/
  logsToFile : Bool := false

inductive SettingsError where
  | malformed (problem : Yaml.Problem)
  | sectionNotMapping
  /-- Two of the unknown names are of types that have no order, so the names cannot be listed. -/
  | unorderedNames (first second : String)
  /-- One of the unknown names is a date and another one a date with a time of day. -/
  | unorderedTimes
  /-- Two of the unknown names are times of which only one says how far it is from universal time. -/
  | unorderedOffsets

def SettingsError.message (file : String) : SettingsError → String
  | .malformed problem => problem.message file
  | .sectionNotMapping => "'engine' section in " ++ file ++ " must be a mapping"
  | .unorderedNames first second =>
      "'<' not supported between instances of '" ++ first ++ "' and '" ++ second ++ "'"
  | .unorderedTimes => "can't compare datetime.datetime to datetime.date"
  | .unorderedOffsets => "can't compare offset-naive and offset-aware datetimes"

namespace Settings

def names : List String := ["log_level", "log_file", "max_statements", "max_bars", "max_nesting_depth"]

def set (settings : Settings) (name : String) (value : Yaml.Value) : Settings :=
  match name with
  | "log_level" => { settings with logLevel := value }
  | "log_file" => { settings with logFile := value }
  | "max_statements" => { settings with maxStatements := value }
  | "max_bars" => { settings with maxBars := value }
  | "max_nesting_depth" => { settings with maxNesting := value }
  | _ => settings

/-! ## Unknown names -/

def orderOf (value : Yaml.Value) : String :=
  match value with
  | .integer _ | .number _ | .boolean _ => "number"
  | _ => value.typeName

def unordered? (first second : Yaml.Value) : Option SettingsError :=
  match first, second with
  | .moment a, .moment b => if a.offset.isSome = b.offset.isSome then none else some .unorderedOffsets
  | .date _, .moment _ | .moment _, .date _ => some .unorderedTimes
  | _, _ =>
      if orderOf first = orderOf second then none
      else some (.unorderedNames second.fullTypeName first.fullTypeName)

def isKnown : Yaml.Value → Bool
  | .text name => names.contains name
  | _ => false

/-- Checks that the unknown names can be listed in order. -/
def checkNames (entries : List (Yaml.Value × Yaml.Value)) : Except SettingsError Unit :=
  match (entries.map (·.1)).filter (!isKnown ·) with
  | first :: rest =>
      match rest.findSome? (unordered? first) with
      | some e => .error e
      | none => .ok ()
  | [] => .ok ()

/-! ## Sections -/

def isThere (document : Document) : Yaml.Value → Bool
  | .null => false
  | .boolean b => b
  | .integer i => i ≠ 0
  | .number x => !(x == 0.0)
  | .text s => s ≠ ""
  | value => !document.isEmpty value

/-- The settings of a section. Of several entries with one name the last one counts. -/
def ofEntries (document : Document) (entries : List (Yaml.Value × Yaml.Value)) : Settings :=
  let settings := entries.foldl (fun settings (name, value) =>
    match name with
    | .text name => settings.set name value
    | _ => settings) ({} : Settings)
  { settings with logsToFile := isThere document settings.logFile }

def named? (entries : List (Yaml.Value × Yaml.Value)) (name : String) : Option Yaml.Value :=
  (entries.findRev? fun
    | (.text key, _) => key = name
    | _ => false).map (·.2)

def ofDocument (document : Document) : Except SettingsError Settings :=
  match (document.entries? document.root).bind (named? · "engine") with
  | none => .ok {}
  | some engine =>
      match document.entries? engine with
      | none => .error .sectionNotMapping
      | some entries => do
          checkNames entries
          .ok (ofEntries document entries)

def ofText (text : String) : Except SettingsError Settings :=
  match Yaml.document (Text.unifyLineBreaks text) with
  | .ok document => ofDocument document
  | .error problem => .error (.malformed problem)

end Settings

def Limit.ofValue (value : Yaml.Value) : Limit :=
  match value with
  | .integer i => .whole i
  | .number x => .fraction x
  | .boolean b => .flag b
  | _ => .incomparable value.fullTypeName

def Settings.limits (settings : Settings) : Limits where
  statements := .ofValue settings.maxStatements
  bars := .ofValue settings.maxBars
  nesting := .ofValue settings.maxNesting

end IndicatorScript
