import IndicatorScript.Files
import IndicatorScript.Settings

/-!
# The log

Where the log goes and how much is logged. The name of a log file may hold fields in braces, of which only the time is
known; a brace that is text is written twice.
-/

namespace IndicatorScript.CommandLine

inductive LogNameError where
  | loneOpening
  | loneClosing
  | nestedField
  | openField
  | openFormat
  | noConversion
  | noColon
  | fieldWithoutName
  | unknownField (name : String)
  deriving DecidableEq, Repr

def LogNameError.message : LogNameError → String
  | .loneOpening => "Single '\x7b' encountered in format string"
  | .loneClosing => "Single '\x7d' encountered in format string"
  | .nestedField => "unexpected '\x7b' in field name"
  | .openField => "expected '\x7d' before end of string"
  | .openFormat => "unmatched '\x7b' in format spec"
  | .noConversion => "end of string while looking for conversion specifier"
  | .noColon => "expected ':' after conversion specifier"
  | .fieldWithoutName => "Format string contains positional fields"
  | .unknownField name => Text.quoted name

/-! ## Names -/

inductive LogNamePart where
  | literal (c : Char)
  | field (name : List Char)
  deriving DecidableEq, Repr

def splitFieldName (inBrackets : Bool) : List Char → List Char × List Char
  | [] => ([], [])
  | c :: rest =>
      if !inBrackets && (c = '{' || c = '}' || c = ':' || c = '!') then ([], c :: rest)
      else
        let (name, rest) := splitFieldName (if inBrackets then c ≠ ']' else c = '[') rest
        (c :: name, rest)

def afterFormat (depth : Nat) : List Char → Except LogNameError (List Char)
  | [] => .error .openFormat
  | '{' :: rest => afterFormat (depth + 1) rest
  | '}' :: rest => if depth = 0 then .ok rest else afterFormat (depth - 1) rest
  | _ :: rest => afterFormat depth rest

def logField (cs : List Char) : Except LogNameError (List Char × List Char) :=
  let (name, rest) := splitFieldName false cs
  match rest with
  | [] => .error .openField
  | '}' :: rest => .ok (name, rest)
  | ':' :: rest => (afterFormat 0 rest).map fun rest => (name, rest)
  | '!' :: rest =>
      match rest with
      | [] => .error .noConversion
      | [_] => .error .openFormat
      | _ :: '}' :: rest => .ok (name, rest)
      | _ :: ':' :: rest => (afterFormat 0 rest).map fun rest => (name, rest)
      | _ => .error .noColon
  | _ => .error .nestedField

def logNameParts : (steps : Nat) → List Char → Except LogNameError (List LogNamePart)
  | 0, _ | _, [] => .ok []
  | steps + 1, c :: rest =>
      if c = '{' then
        match rest with
        | [] => .error .loneOpening
        | '{' :: rest => (logNameParts steps rest).map (.literal '{' :: ·)
        | rest => do
            let (name, rest) ← logField rest
            return .field name :: (← logNameParts steps rest)
      else if c = '}' then
        match rest with
        | '}' :: rest => (logNameParts steps rest).map (.literal '}' :: ·)
        | _ => .error .loneClosing
      else (logNameParts steps rest).map (.literal c :: ·)

/-- The text of a part. The time is left for whoever opens the file. -/
def LogNamePart.text : LogNamePart → Except LogNameError (List Char)
  | .literal c => .ok [c]
  | .field whole =>
      let name := whole.takeWhile fun c => c ≠ '.' && c ≠ '['
      if name.all Char.isDigit then .error .fieldWithoutName
      else if String.ofList name = "time" then .ok ('{' :: whole ++ ['}'])
      else .error (.unknownField (String.ofList name))

def logName (text : String) : Except LogNameError String := do
  let parts ← logNameParts text.length text.toList
  return String.ofList (← parts.mapM LogNamePart.text).flatten

/-! ## Opening -/

inductive LogError where
  | unknownLevel (name : String)
  | negativeLevel (level : Int)
  | noLevel (typeName : String)
  | noFile (typeName : String)
  | noName (e : LogNameError)
  | noPlace (path : String) (e : FileError)

def LogError.message : LogError → String
  | .unknownLevel name => "Level '" ++ name ++ "' does not exist"
  | .negativeLevel level => "Invalid level value, it should be a positive integer, not: " ++ toString level
  | .noLevel typeName => "Invalid level, it should be an integer or a string, not: '" ++ typeName ++ "'"
  | .noFile typeName => "Cannot log to objects of type '" ++ typeName ++ "'"
  | .noName e => e.message
  | .noPlace path e => e.message path

def logLevels : List String := ["TRACE", "DEBUG", "INFO", "SUCCESS", "WARNING", "ERROR", "CRITICAL"]

def checkLevel (level : Yaml.Value) : Except LogError Unit :=
  match level with
  | .text name => if logLevels.contains name then .ok () else .error (.unknownLevel name)
  | .integer level => if level < 0 then .error (.negativeLevel level) else .ok ()
  | .boolean _ => .ok ()
  | _ => .error (.noLevel level.typeName)

def logFileName (file : Yaml.Value) : Except LogError String :=
  match file with
  | .text name =>
      match logName name with
      | .ok name => .ok name
      | .error e => .error (.noName e)
  | _ => .error (.noFile file.typeName)

/-- The path of the log file that the settings ask for. What is logged is added to what it holds. -/
def openLog (files : Files) (settings : Settings) : Except LogError (Option String) := do
  checkLevel settings.logLevel
  if settings.logsToFile then
    let name ← logFileName settings.logFile
    match files.logBlocked? name with
    | some e => throw (.noPlace name e)
    | none => return some name
  else return none

end IndicatorScript.CommandLine
