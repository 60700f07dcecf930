import IndicatorScript.CommandLine.Assignment

/-!
# Options

What the arguments of the command line ask for. An option may be shortened as long as no other begins that way, and its
value is the next argument or follows an equals sign. Arguments after two dashes are never options. At most one source
of the script may be named.
-/

namespace IndicatorScript.CommandLine

inductive Given where
  | text (value : String)
  | nothing
  deriving DecidableEq, Repr

def Given.nonempty? : Given → Option String
  | .text "" | .nothing => none
  | .text value => some value

structure Options where
  csv : Option Given := none
  script : Option Given := none
  source : Option Given := none
  example? : Option Given := none
  /-- None stands for a parameter without a value. -/
  parameters : List (Option (String × Value Float)) := []
  config : Option Given := none
  validateOnly : Bool := false
  exportTo : Option Given := none
  listExamples : Bool := false

inductive Usage where
  | help
  | ambiguous (argument : String)
  | noValue (option : String)
  | needlessValue (option : String)
  | badParameter (value : String)
  | conflict (option : String)
  | unrecognized (arguments : List String)

/-! ## Recognising options -/

inductive OptionName where
  | help | csv | script | source | example_ | parameter | config | validateOnly | exportTo | listExamples
  deriving DecidableEq, Repr

def OptionName.takesValue : OptionName → Bool
  | .help | .validateOnly | .listExamples => false
  | _ => true

def optionNames : List (String × OptionName) :=
  [ ("-h", .help), ("--help", .help), ("--csv", .csv), ("--script", .script), ("--source", .source),
    ("--example", .example_), ("--param", .parameter), ("--config", .config), ("--validate-only", .validateOnly),
    ("--export", .exportTo), ("--list-examples", .listExamples) ]

inductive Argument where
  | value (text : String)
  | option (spelling : String) (name : OptionName) (attached : Option String)
  /-- Looks like an option and is none. -/
  | unknown (text : String)
  /-- The two dashes. -/
  | divider

def splitEqual (text : String) : String × Option String :=
  match text.toList.dropWhile (· ≠ '=') with
  | [] => (text, none)
  | _ :: rest => (String.ofList (text.toList.takeWhile (· ≠ '=')), some (String.ofList rest))

def dropFinalBreak (cs : List Char) : List Char :=
  match cs.getLast? with
  | some '\n' => cs.dropLast
  | _ => cs

def isNegativeNumber (text : String) : Bool :=
  match dropFinalBreak text.toList with
  | '-' :: rest =>
      let isDigit (c : Char) : Bool := (Text.digitValue? c).isSome
      match rest.dropWhile isDigit with
      | [] => !rest.isEmpty
      | '.' :: fraction => !fraction.isEmpty && fraction.all isDigit
      | _ => false
  | _ => false

/-- What is joined to a short option as its value. The only short option takes none, but may be joined to itself. -/
def joined (tail : String) : Option String :=
  if tail ≠ "" ∧ tail.toList.all (· = 'h') then none else some tail

def candidates (text : String) : List (String × OptionName × Option String) :=
  if "--".isPrefixOf text then
    let (spelling, attached) := splitEqual text
    (optionNames.filter fun (full, _) => spelling.isPrefixOf full).map fun (full, name) => (full, name, attached)
  else
    (optionNames.filter fun (full, _) => full = String.ofList (text.toList.take 2)).map fun (full, name) =>
      (full, name, joined (String.ofList (text.toList.drop 2)))

def classify (text : String) : Except Usage Argument :=
  if text.toList.head? ≠ some '-' then .ok (.value text)
  else
    match optionNames.lookup text with
    | some name => .ok (.option text name none)
    | none =>
        if text.length = 1 then .ok (.value text)
        else
          let (spelling, attached) := splitEqual text
          match (if attached.isSome then optionNames.lookup spelling else none) with
          | some name => .ok (.option spelling name (if spelling = "-h" then attached.bind joined else attached))
          | none =>
              match candidates text with
              | [(full, name, attached)] => .ok (.option full name attached)
              | [] =>
                  if isNegativeNumber text || text.contains ' ' then .ok (.value text) else .ok (.unknown text)
              | _ => .error (.ambiguous text)

def classifyAll : List String → Except Usage (List Argument)
  | [] => .ok []
  | text :: rest =>
      if text = "--" then .ok (.divider :: rest.map .value)
      else do
        let first ← classify text
        let others ← classifyAll rest
        .ok (first :: others)

/-! ## Collecting options -/

def Options.sources (options : Options) : List (OptionName × Option Given) :=
  [(.script, options.script), (.source, options.source), (.example_, options.example?)]

def Options.conflicts (options : Options) (name : OptionName) : Bool :=
  options.sources.any (·.1 = name) && options.sources.any fun (other, given) => other ≠ name && given.isSome

def Options.assign (options : Options) (spelling : String) (name : OptionName) (value : Given) :
    Except Usage Options :=
  if options.conflicts name then .error (.conflict spelling)
  else
    match name with
    | .csv => .ok { options with csv := some value }
    | .script => .ok { options with script := some value }
    | .source => .ok { options with source := some value }
    | .example_ => .ok { options with example? := some value }
    | .config => .ok { options with config := some value }
    | .exportTo => .ok { options with exportTo := some value }
    | .parameter =>
        match value with
        | .nothing => .ok { options with parameters := options.parameters ++ [none] }
        | .text value =>
            match assignment? value with
            | some parameter => .ok { options with parameters := options.parameters ++ [some parameter] }
            | none => .error (.badParameter value)
    | .help | .validateOnly | .listExamples => .error (.needlessValue spelling)

def Options.switch (options : Options) (name : OptionName) : Except Usage Options :=
  match name with
  | .validateOnly => .ok { options with validateOnly := true }
  | .listExamples => .ok { options with listExamples := true }
  | .help => .error .help
  | _ => .ok options

def Options.collect (options : Options) (extra : List String) : List Argument → Except Usage Options
  | [] => if extra.isEmpty then .ok options else .error (.unrecognized extra)
  | .value text :: rest => options.collect (extra ++ [text]) rest
  | .unknown text :: rest => options.collect (extra ++ [text]) rest
  | .divider :: rest => options.collect (extra ++ ["--"]) rest
  | .option spelling name attached :: rest =>
      if name.takesValue then
        match attached, rest with
        | some value, rest => do
            (← options.assign spelling name (if value = "--" then .nothing else .text value)).collect extra rest
        | none, .value value :: rest => do (← options.assign spelling name (.text value)).collect extra rest
        | none, _ => .error (.noValue spelling)
      else
        match attached with
        | some _ => .error (.needlessValue spelling)
        | none => do (← options.switch name).collect extra rest

def Options.ofArguments (arguments : List String) : Except Usage Options := do
  let arguments ← classifyAll arguments
  Options.collect {} [] arguments

/-! ## Messages -/

def Usage.reason : Usage → String
  | .help => ""
  | .ambiguous argument => "ambiguous option: " ++ argument
  | .noValue option => "argument " ++ option ++ ": expected one argument"
  | .needlessValue option => "argument " ++ option ++ ": takes no value"
  | .badParameter value => "argument --param: " ++ noAssignment value
  | .conflict option => "argument " ++ option ++ ": not allowed with another source of the script"
  | .unrecognized arguments => "unrecognized arguments: " ++ " ".intercalate arguments

end IndicatorScript.CommandLine
