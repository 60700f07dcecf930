import IndicatorScript.Proofs.CommandLine.Table
import IndicatorScript.Proofs.Run.Execution
import IndicatorScript.Proofs.Run.Failures

/-!
# The stages of the command line

A run of the command line reads the settings, opens the log, and reads the script, the table and the parameters, each
only if all before it went well. What a run does is known from the last stage that it reaches.
-/

namespace IndicatorScript

/-! ## Parameters -/

theorem Bindings.mem_of_get?_ofList {β : Type} {pairs : List (String × β)} {name : String} {value : β}
    (bound : (Bindings.ofList pairs).get? name = some value) : (name, value) ∈ pairs := by
  have added (pairs : List (String × β)) (bindings : Bindings β)
      (bound : (pairs.foldl (fun bindings pair => bindings.insert pair.1 pair.2) bindings).get? name = some value) :
      (name, value) ∈ pairs ∨ bindings.get? name = some value := by
    induction pairs generalizing bindings with
    | nil => exact .inr bound
    | cons pair rest ih =>
      rcases ih _ bound with mem | bound
      · exact .inl (List.mem_cons_of_mem pair mem)
      · rcases Bindings.get?_insert_cases bound with ⟨rfl, rfl⟩ | ⟨-, bound⟩
        · exact .inl List.mem_cons_self
        · exact .inr bound
  rcases added pairs {} bound with mem | bound
  · exact mem
  · cases bound

namespace CommandLine

theorem ne_integer_of_assignment? {text name : String} {value : Value Float}
    (read : assignment? text = some (name, value)) (i : Int) : value ≠ .integer i := by
  unfold assignment? at read
  split at read
  · cases read
  · cases read
    unfold assignedValue
    split
    all_goals
      intro same
      cases same

/-- No parameter is given as an integer. -/
def Options.HasNoIntegers (options : Options) : Prop :=
  ∀ name i, some (name, Value.integer i) ∉ options.parameters

namespace Options

variable {options : Options}

theorem assign_hasNoIntegers (no : options.HasNoIntegers) (spelling : String) (name : OptionName) (value : Given) :
    Gives HasNoIntegers (options.assign spelling name value) := by
  unfold assign
  split
  · exact .error _
  cases name with
  | parameter =>
    cases value with
    | nothing =>
      refine .ok fun name i mem => ?_
      rcases List.mem_append.mp mem with mem | mem
      · exact no name i mem
      · cases List.mem_singleton.mp mem
    | text value =>
      dsimp only
      split
      · next parameter read =>
        refine .ok fun name i mem => ?_
        rcases List.mem_append.mp mem with mem | mem
        · exact no name i mem
        · cases List.mem_singleton.mp mem
          exact ne_integer_of_assignment? read i rfl
      · exact .error _
  | csv | script | source | example_ | config | exportTo => exact .ok no
  | help | validateOnly | listExamples => exact .error _

theorem switch_hasNoIntegers (no : options.HasNoIntegers) (name : OptionName) :
    Gives HasNoIntegers (options.switch name) := by
  cases name with
  | help => exact .error _
  | _ => exact .ok no

theorem collect_hasNoIntegers (no : options.HasNoIntegers) (extra : List String) (arguments : List Argument) :
    Gives HasNoIntegers (options.collect extra arguments) := by
  induction options, extra, arguments using collect.induct with
  | case1 options extra none =>
    rw [collect, if_pos none]
    exact .ok no
  | case2 options extra some =>
    rw [collect, if_neg some]
    exact .error _
  | case3 options extra text rest ih | case4 options extra text rest ih | case5 options extra rest ih =>
    rw [collect]
    exact ih no
  | case6 options extra spelling name takes value rest ih =>
    rw [collect, if_pos takes]
    exact (assign_hasNoIntegers no spelling name _).bind fun next no => ih next no
  | case7 options extra spelling name takes value rest ih =>
    rw [collect, if_pos takes]
    exact (assign_hasNoIntegers no spelling name _).bind fun next no => ih next no
  | case8 options extra spelling name rest takes noValue =>
    rw [collect.eq_def]
    dsimp only
    rw [if_pos takes]
    split
    · next isGiven => cases isGiven
    · next value further _ => exact (noValue value further rfl).elim
    · exact .error _
  | case9 options extra spelling name rest switches value =>
    rw [collect, if_neg switches]
    exact .error _
  | case10 options extra spelling name rest switches ih =>
    rw [collect.eq_def]
    dsimp only
    rw [if_neg switches]
    exact (switch_hasNoIntegers no name).bind fun next no => ih next no

theorem ofArguments_hasNoIntegers (arguments : List String) : Gives HasNoIntegers (ofArguments arguments) :=
  (Gives.trivial (classifyAll arguments)).bind fun read _ => collect_hasNoIntegers (fun _ _ => List.not_mem_nil) [] read

end Options

theorem parametersOf_ne_integer {options : Options} (no : options.HasNoIntegers) {parameters : Bindings (Value Float)}
    (given : parametersOf options = .ok parameters) (name : String) (i : Int) :
    parameters.get? name ≠ some (.integer i) := by
  intro bound
  unfold parametersOf at given
  split at given
  · cases given
  · cases given
    have mem := Bindings.mem_of_get?_ofList bound
    exact no name i (by simpa using mem)

/-! ## Stages -/

variable {host : Host} {options : Options} {settings : Settings} {log : Option String} {source : String}
  {table : Csv.Table} {parameters : Bindings (Value Float)} {execution : Execution Float} {rows : List ExportRow}

structure Configured (host : Host) (options : Options) (settings : Settings) (log : Option String) : Prop where
  runs : options.listExamples = false
  reads : loadSettings host options.config = .ok settings
  logs : openLog host.files settings = .ok log

structure Sourced (host : Host) (options : Options) (settings : Settings) (log : Option String) (source : String) : Prop
    extends Configured host options settings log where
  finds : readSource host.files options = .ok (.ok source)

structure Validated (host : Host) (options : Options) (settings : Settings) (log : Option String) (source : String) :
    Prop extends Sourced host options settings log source where
  unguarded : host.interpreter.compilingGuard? settings.limits source = none
  valid : validate settings.limits source = none

/-- The table is read, for a script that is to be executed. -/
structure Tabled (host : Host) (options : Options) (settings : Settings) (log : Option String) (source : String)
    (table : Csv.Table) : Prop extends Validated host options settings log source where
  executes : options.validateOnly = false
  loads : ∃ path, nonempty options.csv = some path ∧ loadBars host.files path = .ok table

/-- The table has all the price columns, and every parameter has a value. -/
structure Prepared (host : Host) (options : Options) (settings : Settings) (log : Option String) (source : String)
    (table : Csv.Table) (parameters : Bindings (Value Float)) : Prop
    extends Tabled host options settings log source table where
  complete : ∀ price, table.frame.Has price
  assigns : parametersOf options = .ok parameters

structure Executed (host : Host) (options : Options) (settings : Settings) (log : Option String) (source : String)
    (table : Csv.Table) (parameters : Bindings (Value Float)) (execution : Execution Float) : Prop
    extends Prepared host options settings log source table parameters where
  runsScript : host.interpreter.executeSource settings.limits source (.frame table.frame) parameters = .ok execution

/-- The script has succeeded, and what it plots stands beside the time stamps. -/
structure Joined (host : Host) (options : Options) (settings : Settings) (log : Option String) (source : String)
    (table : Csv.Table) (parameters : Bindings (Value Float)) (execution : Execution Float) (rows : List ExportRow) :
    Prop extends Executed host options settings log source table parameters execution where
  succeeds : execution.failure = none
  single : execution.width ≤ 1
  joins : exportRows table execution.series = .ok rows

def Options.HasSource (options : Options) : Prop := ∃ entry ∈ options.sources, (nonempty entry.2).isSome = true

theorem runOptions_of_hasSource (runs : options.listExamples = false) (has : options.HasSource) :
    runOptions host options = (do
      let settings ← loadSettings host options.config
      let log ← (openLog host.files settings).mapError .log
      match ← readSource host.files options with
      | .error text => return { status := 1, lines := ["ERROR: " ++ text], log }
      | .ok source => check host options log settings source) := by
  rcases has with ⟨entry, mem, isSome⟩
  have named : ¬ (options.sources.all fun entry => (nonempty entry.2).isNone) = true := by
    intro all
    have isNone := List.all_eq_true.mp all entry mem
    rw [Option.isNone_iff_eq_none.mp isNone] at isSome
    cases isSome
  rw [runOptions, runs, if_neg Bool.false_ne_true]
  exact if_neg named

theorem Configured.runOptions_eq (configured : Configured host options settings log) (has : options.HasSource) :
    runOptions host options = readSource host.files options >>= fun read =>
      match read with
      | .error text => .ok { status := 1, lines := ["ERROR: " ++ text], log }
      | .ok source => check host options log settings source := by
  rw [runOptions_of_hasSource configured.runs has, configured.reads]
  dsimp only [bind, Except.bind]
  rw [configured.logs]
  rfl

theorem Sourced.runOptions_eq (sourced : Sourced host options settings log source) (has : options.HasSource) :
    runOptions host options = check host options log settings source := by
  rw [sourced.toConfigured.runOptions_eq has, sourced.finds]
  rfl

theorem Validated.runOptions_eq (validated : Validated host options settings log source) (has : options.HasSource)
    (executes : options.validateOnly = false) {path : String} (named : nonempty options.csv = some path) :
    runOptions host options = execute host options log settings source path := by
  rw [validated.toSourced.runOptions_eq has, check, validated.unguarded, validated.valid]
  dsimp only
  rw [executes, if_neg Bool.false_ne_true, named]

theorem Validated.executeSource_eq (validated : Validated host options settings log source) {script : Script Float}
    (compiles : compile settings.limits source = .ok script) (input : BarInput Float)
    (parameters : Bindings (Value Float)) :
    host.interpreter.executeSource settings.limits source input parameters =
      host.interpreter.execute script settings.limits input parameters :=
  host.interpreter.executeSource_of_ok validated.unguarded compiles

theorem Tabled.isNormal (tabled : Tabled host options settings log source table) : IsNormal table.frame := by
  rcases tabled.loads with ⟨path, -, loaded⟩
  exact loadBars_isNormal host.files path table loaded

theorem Tabled.isRegular (tabled : Tabled host options settings log source table) : table.frame.IsRegular := by
  rcases tabled.loads with ⟨path, -, loaded⟩
  exact loadBars_isRegular host.files path table loaded

theorem Prepared.runOptions_eq
    (prepared : Prepared host options settings log source table parameters) (has : options.HasSource) :
    runOptions host options =
      match host.interpreter.executeSource settings.limits source (.frame table.frame) parameters with
      | .error e => .error (.interrupted e)
      | .ok execution =>
          match execution.failure with
          | none => report host.files options log table execution
          | some (.notCompiled e) =>
              .ok { status := 2, lines := ["ERROR: " ++ Fault.syntaxError.name ++ ": " ++ e.message], log }
          | some (.notEvaluated e) =>
              let name := (e.fault?.map Fault.name).getD ""
              .ok { status := 2, lines := ["ERROR: " ++ name ++ ": " ++ e.message], log } := by
  rcases prepared.loads with ⟨path, named, loaded⟩
  have complete := prepared.isNormal.missingColumns_eq_nil_iff.mpr prepared.complete
  rw [prepared.toValidated.runOptions_eq has prepared.executes named, execute, loaded]
  dsimp only [bind, Except.bind]
  rw [complete, prepared.assigns]
  dsimp only
  cases host.interpreter.executeSource settings.limits source (.frame table.frame) parameters with
  | error e => rfl
  | ok execution => rfl

theorem Executed.runOptions_eq
    (executed : Executed host options settings log source table parameters execution) (has : options.HasSource)
    (succeeds : execution.failure = none) :
    runOptions host options = report host.files options log table execution := by
  rw [executed.toPrepared.runOptions_eq has, executed.runsScript]
  dsimp only
  rw [succeeds]

theorem Joined.runOptions_eq
    (joined : Joined host options settings log source table parameters execution rows) (has : options.HasSource) :
    runOptions host options =
      match nonempty options.exportTo with
      | none => .ok { status := 0, lines := summary execution, log }
      | some path => checkTarget host.files path >>= fun _ =>
          .ok {
            status := 0
            lines := summary execution ++ ["Series exported to " ++ path]
            log
            exported := some {
              path := host.files.expand path, packing := Csv.Packing.ofName? path, text := exportText rows } } := by
  rw [joined.toExecuted.runOptions_eq has joined.succeeds, report, if_neg (Nat.not_lt.mpr joined.single), joined.joins]
  rfl

end CommandLine

end IndicatorScript
