import IndicatorScript.Proofs.CommandLine.Stages

/-!
# Exit statuses

Which runs of the command line exit with which status, and which end without one (`run_exits`). A script that cannot be
found and a table without some price column are reported by status 1, and a script that is wrong or fails by status 2.
Settings, a log, a table or an export file that cannot be used are not reported: they end the program.
-/

namespace IndicatorScript.CommandLine

variable {host : Host} {options : Options} {settings : Settings} {log : Option String} {source : String}
  {table : Csv.Table} {parameters : Bindings (Value Float)} {execution : Execution Float} {rows : List ExportRow}

/-! ## Outcomes -/

/-- What a run has to do with these arguments is known: a source is named, and so is a table if one is read. -/
structure Accepts (host : Host) (arguments : List String) (options : Options) : Prop where
  read : Options.ofArguments arguments = .ok options
  hasSource : options.listExamples = true ∨ options.HasSource
  hasTable : ∀ settings log source, Validated host options settings log source → options.validateOnly = false →
    ∃ path, nonempty options.csv = some path

/-- All that was asked for is done. -/
inductive Succeeds (host : Host) (options : Options) : Prop where
  | listed (lists : options.listExamples = true)
  | validated {settings : Settings} {log : Option String} {source : String}
      (validated : Validated host options settings log source) (only : options.validateOnly = true)
  | plotted {settings : Settings} {log : Option String} {source : String} {table : Csv.Table}
      {parameters : Bindings (Value Float)} {execution : Execution Float} {rows : List ExportRow}
      (joined : Joined host options settings log source table parameters execution rows)
      (writes : ∀ path, nonempty options.exportTo = some path → checkTarget host.files path = .ok ())

/-- There is no such script, or the table lacks a price column. -/
inductive BadInput (host : Host) (options : Options) : Prop where
  | example_ {settings : Settings} {log : Option String} {name : String}
      (configured : Configured host options settings log) (textless : nonempty options.source = none)
      (named : nonempty options.example? = some name) (unknown : Example.source? name = none)
  | script {settings : Settings} {log : Option String} {e : FileError}
      (configured : Configured host options settings log) (textless : nonempty options.source = none)
      (unnamed : nonempty options.example? = none)
      (unread : host.files.read ((nonempty options.script).getD "") = .error e) (isSystem : e.isSystem = true)
  | table {settings : Settings} {log : Option String} {source : String} {table : Csv.Table}
      (tabled : Tabled host options settings log source table) {price : Price} (lacks : ¬ table.frame.Has price)

/-- The script is wrong, or its execution fails. -/
inductive BadScript (host : Host) (options : Options) : Prop where
  | invalid {settings : Settings} {log : Option String} {source : String} {e : SyntaxError}
      (sourced : Sourced host options settings log source)
      (unguarded : host.interpreter.compilingGuard? settings.limits source = none)
      (invalid : validate settings.limits source = some e)
      (comparable : ∀ typeName, e.cause ≠ .tooDeep (.incomparable typeName))
  | failed {settings : Settings} {log : Option String} {source : String} {table : Csv.Table}
      {parameters : Bindings (Value Float)} {execution : Execution Float} {failure : Failure Float}
      (executed : Executed host options settings log source table parameters execution)
      (fails : execution.failure = some failure)

/-- Nothing reports what went wrong. -/
inductive Escapes (host : Host) (options : Options) : Crash → Prop where
  | settings {crash : Crash} (runs : options.listExamples = false)
      (unread : loadSettings host options.config = .error crash) : Escapes host options crash
  | log {settings : Settings} {e : LogError} (runs : options.listExamples = false)
      (reads : loadSettings host options.config = .ok settings) (closed : openLog host.files settings = .error e) :
      Escapes host options (.log e)
  | script {settings : Settings} {log : Option String} {e : FileError}
      (configured : Configured host options settings log) (textless : nonempty options.source = none)
      (unnamed : nonempty options.example? = none)
      (unread : host.files.read ((nonempty options.script).getD "") = .error e) (noSystem : e.isSystem = false) :
      Escapes host options (.file ((nonempty options.script).getD "") e)
  | compiling {settings : Settings} {log : Option String} {source : String} {guard : Guard}
      (sourced : Sourced host options settings log source)
      (stops : host.interpreter.compilingGuard? settings.limits source = some guard) :
      Escapes host options (.interrupted (.stopped guard))
  | nesting {settings : Settings} {log : Option String} {source typeName : String} {line : Int}
      (sourced : Sourced host options settings log source)
      (unguarded : host.interpreter.compilingGuard? settings.limits source = none)
      (deep : validate settings.limits source = some ⟨.tooDeep (.incomparable typeName), line⟩) :
      Escapes host options (.incomparableLimit typeName)
  | table {settings : Settings} {log : Option String} {source path : String} {crash : Crash}
      (validated : Validated host options settings log source) (executes : options.validateOnly = false)
      (named : nonempty options.csv = some path) (unread : loadBars host.files path = .error crash) :
      Escapes host options crash
  | parameters {settings : Settings} {log : Option String} {source : String} {table : Csv.Table}
      {crash : Crash} (tabled : Tabled host options settings log source table)
      (complete : ∀ price, table.frame.Has price) (unassigned : parametersOf options = .error crash) :
      Escapes host options crash
  | frame {settings : Settings} {log : Option String} {source : String} {table : Csv.Table}
      {parameters : Bindings (Value Float)} {e : FrameError}
      (prepared : Prepared host options settings log source table parameters)
      (unread : table.frame.toMarket = .error e) : Escapes host options (.interrupted (.badFrame e))
  | stack {settings : Settings} {log : Option String} {source : String} {table : Csv.Table}
      {parameters : Bindings (Value Float)} {script : Script Float} {market : Market Float}
      (prepared : Prepared host options settings log source table parameters)
      (compiles : compile settings.limits source = .ok script) (read : table.frame.toMarket = .ok market)
      (exhausts : host.interpreter.exhausts settings.limits script.statements market parameters = true) :
      Escapes host options (.interrupted (.stopped .stackExhausted))
  | limit {settings : Settings} {log : Option String} {source typeName : String} {table : Csv.Table}
      {parameters : Bindings (Value Float)} {script : Script Float} {market : Market Float}
      (prepared : Prepared host options settings log source table parameters)
      (compiles : compile settings.limits source = .ok script) (read : table.frame.toMarket = .ok market)
      (walks : host.interpreter.exhausts settings.limits script.statements market parameters = false)
      (exceeded : settings.limits.exceeded? (α := Float) script.statements.length market.bars.length =
        some (.incomparableLimit typeName)) :
      Escapes host options (.interrupted (.badInput (.incomparableLimit typeName)))
  | columns {settings : Settings} {log : Option String} {source : String} {table : Csv.Table}
      {parameters : Bindings (Value Float)} {market : Market Float} {e : ColumnError}
      (prepared : Prepared host options settings log source table parameters)
      (read : table.frame.toMarket = .ok market) (several : ∃ price, market.further price ≠ [])
      (interrupted : host.interpreter.executeSource settings.limits source (.frame table.frame) parameters =
        .error (.badInput (.columns e))) : Escapes host options (.interrupted (.badInput (.columns e)))
  | message {settings : Settings} {log : Option String} {source : String} {table : Csv.Table}
      {parameters : Bindings (Value Float)} {most : Nat} {limit : Int}
      (prepared : Prepared host options settings log source table parameters)
      (bounded : host.interpreter.digits = some most) (long : most < Decimal.digitCount limit.natAbs)
      (isLimit : settings.limits.statements = .whole limit ∨ settings.limits.bars = .whole limit)
      (interrupted : host.interpreter.executeSource settings.limits source (.frame table.frame) parameters =
        .error (.stopped (.unprintableInteger most))) :
      Escapes host options (.interrupted (.stopped (.unprintableInteger most)))
  | width {settings : Settings} {log : Option String} {source : String} {table : Csv.Table}
      {parameters : Bindings (Value Float)} {execution : Execution Float}
      (executed : Executed host options settings log source table parameters execution)
      (succeeds : execution.failure = none) (several : 1 < execution.width) :
      Escapes host options (.unjoined (.severalValues execution.series.length execution.width))
  | rows {settings : Settings} {log : Option String} {source : String} {table : Csv.Table}
      {parameters : Bindings (Value Float)} {execution : Execution Float} {e : JoinError}
      (executed : Executed host options settings log source table parameters execution)
      (succeeds : execution.failure = none) (single : execution.width ≤ 1)
      (unjoined : exportRows table execution.series = .error e) : Escapes host options (.unjoined e)
  | target {settings : Settings} {log : Option String} {source path : String} {table : Csv.Table}
      {parameters : Bindings (Value Float)} {execution : Execution Float} {rows : List ExportRow} {crash : Crash}
      (joined : Joined host options settings log source table parameters execution rows)
      (named : nonempty options.exportTo = some path) (blocked : checkTarget host.files path = .error crash) :
      Escapes host options crash

/-! ## What each of them comes to -/

def Reports (host : Host) (options : Options) (status : Nat) : Prop :=
  ∃ settings log lines, Configured host options settings log ∧
    runOptions host options = .ok { status, lines, log }

theorem Succeeds.status (succeeds : Succeeds host options)
    (has : options.listExamples = true ∨ options.HasSource) :
    ∃ outcome, runOptions host options = .ok outcome ∧ outcome.status = 0 := by
  cases succeeds with
  | listed lists =>
    rw [runOptions, if_pos lists]
    exact ⟨_, rfl, rfl⟩
  | validated validated only =>
    have named := has.resolve_left (Bool.eq_false_iff.mp validated.runs)
    rw [validated.toSourced.runOptions_eq named, check, validated.unguarded, validated.valid]
    dsimp only
    rw [if_pos only]
    exact ⟨_, rfl, rfl⟩
  | plotted joined writes =>
    have named := has.resolve_left (Bool.eq_false_iff.mp joined.runs)
    rw [joined.runOptions_eq named]
    cases asked : nonempty options.exportTo with
    | none => exact ⟨_, rfl, rfl⟩
    | some path =>
      dsimp only
      rw [writes path asked]
      exact ⟨_, rfl, rfl⟩

theorem BadInput.reports (bad : BadInput host options) (has : options.listExamples = true ∨ options.HasSource) :
    Reports host options 1 := by
  cases bad with
  | @example_ settings log name configured textless named unknown =>
    have isNamed := has.resolve_left (Bool.eq_false_iff.mp configured.runs)
    refine ⟨settings, log, ["ERROR: " ++ Text.quoted (Example.unknownMessage name)], configured, ?_⟩
    rw [configured.runOptions_eq isNamed, readSource, textless, named]
    dsimp only
    rw [unknown]
    rfl
  | @script settings log e configured textless unnamed unread isSystem =>
    have isNamed := has.resolve_left (Bool.eq_false_iff.mp configured.runs)
    refine ⟨settings, log, ["ERROR: " ++ e.message ((nonempty options.script).getD "")], configured, ?_⟩
    rw [configured.runOptions_eq isNamed, readSource, textless, unnamed]
    dsimp only
    rw [unread]
    dsimp only
    rw [if_pos isSystem]
    rfl
  | @table settings log source table tabled price lacks =>
    have isNamed := has.resolve_left (Bool.eq_false_iff.mp tabled.runs)
    rcases tabled.loads with ⟨path, named, loaded⟩
    have incomplete : ¬ missingColumns (table.frame.columns.map (·.1)) = [] :=
      fun none => lacks (tabled.isNormal.missingColumns_eq_nil_iff.mp none price)
    let missing := missingColumns (table.frame.columns.map (·.1))
    refine ⟨settings, log, ["ERROR: CSV is missing required columns: " ++ Text.bracketed (missing.map Text.quoted)],
      tabled.toConfigured, ?_⟩
    rw [tabled.toValidated.runOptions_eq isNamed tabled.executes named, execute, loaded]
    dsimp only [bind, Except.bind]
    rw [if_pos (by simpa using incomplete)]
    rfl

theorem BadScript.reports (bad : BadScript host options) (has : options.listExamples = true ∨ options.HasSource) :
    Reports host options 2 := by
  cases bad with
  | @invalid settings log source e sourced unguarded invalid comparable =>
    have named := has.resolve_left (Bool.eq_false_iff.mp sourced.runs)
    refine ⟨settings, log, ["ERROR: script is invalid: " ++ e.message], sourced.toConfigured, ?_⟩
    rw [sourced.runOptions_eq named, check, unguarded, invalid]
    dsimp only
    split
    · next typeName line same =>
      cases same
      exact absurd rfl (comparable typeName)
    · next e' _ same =>
      cases same
      rfl
    · next same => cases same
  | @failed settings log source table parameters execution failure executed fails =>
    have named := has.resolve_left (Bool.eq_false_iff.mp executed.runs)
    have runs := executed.toPrepared.runOptions_eq named
    rw [executed.runsScript] at runs
    dsimp only at runs
    rw [fails] at runs
    cases failure with
    | notCompiled e => exact ⟨settings, log, _, executed.toConfigured, runs⟩
    | notEvaluated e => exact ⟨settings, log, _, executed.toConfigured, runs⟩

theorem Escapes.runs {crash : Crash} (escapes : Escapes host options crash) : options.listExamples = false := by
  cases escapes with
  | settings runs => exact runs
  | log runs => exact runs
  | script configured => exact configured.runs
  | compiling sourced => exact sourced.runs
  | nesting sourced => exact sourced.runs
  | table validated => exact validated.runs
  | parameters tabled => exact tabled.runs
  | frame prepared => exact prepared.runs
  | stack prepared => exact prepared.runs
  | limit prepared => exact prepared.runs
  | columns prepared => exact prepared.runs
  | message prepared => exact prepared.runs
  | width executed => exact executed.runs
  | rows executed => exact executed.runs
  | target joined => exact joined.runs

theorem Escapes.runOptions_eq {crash : Crash} (escapes : Escapes host options crash)
    (has : options.listExamples = true ∨ options.HasSource) : runOptions host options = .error crash := by
  have named := has.resolve_left (Bool.eq_false_iff.mp escapes.runs)
  cases escapes with
  | settings runs unread =>
    rw [runOptions_of_hasSource runs named, unread]
    rfl
  | log runs reads closed =>
    rw [runOptions_of_hasSource runs named, reads]
    dsimp only [bind, Except.bind]
    rw [closed]
    rfl
  | script configured textless unnamed unread noSystem =>
    rw [configured.runOptions_eq named, readSource, textless, unnamed]
    dsimp only
    rw [unread]
    dsimp only
    rw [noSystem]
    rfl
  | compiling sourced stops => rw [sourced.runOptions_eq named, check, stops]
  | nesting sourced unguarded deep => rw [sourced.runOptions_eq named, check, unguarded, deep]
  | table validated executes asked unread =>
    rw [validated.runOptions_eq named executes asked, execute, unread]
    rfl
  | parameters tabled complete unassigned =>
    rcases tabled.loads with ⟨path, asked, loaded⟩
    rw [tabled.toValidated.runOptions_eq named tabled.executes asked, execute, loaded]
    dsimp only [bind, Except.bind]
    rw [tabled.isNormal.missingColumns_eq_nil_iff.mpr complete, unassigned]
    rfl
  | frame prepared unread =>
    rcases validate_eq_none_iff.mp prepared.valid with ⟨script, compiles⟩
    rw [prepared.runOptions_eq named, prepared.executeSource_eq compiles, Interpreter.execute, BarInput.toMarket,
      unread]
    rfl
  | stack prepared compiles read exhausts =>
    rw [prepared.runOptions_eq named, prepared.executeSource_eq compiles,
      host.interpreter.execute_of_toMarket _ _ (.frame _) read, exhausts, if_pos rfl]
  | limit prepared compiles read walks exceeded =>
    rw [prepared.runOptions_eq named, prepared.executeSource_eq compiles,
      host.interpreter.execute_of_toMarket _ _ (.frame _) read, walks, if_neg Bool.false_ne_true,
      Script.perform_of_exceeded exceeded]
    rfl
  | columns prepared read several interrupted => rw [prepared.runOptions_eq named, interrupted]
  | message prepared bounded long isLimit interrupted => rw [prepared.runOptions_eq named, interrupted]
  | width executed succeeds several =>
    rw [executed.runOptions_eq named succeeds, report, if_pos several]
    rfl
  | rows executed succeeds single unjoined =>
    rw [executed.runOptions_eq named succeeds, report, if_neg (Nat.not_lt.mpr single), unjoined]
    rfl
  | target joined asked blocked =>
    rw [joined.runOptions_eq named, asked]
    dsimp only
    rw [blocked]
    rfl

/-! ## Nothing else happens -/

theorem Configured.sourced_or (configured : Configured host options settings log) :
    (∃ source, Sourced host options settings log source) ∨ BadInput host options ∨
      ∃ crash, Escapes host options crash := by
  cases text : nonempty options.source with
  | some source =>
    refine .inl ⟨source, configured, ?_⟩
    rw [readSource, text]
  | none =>
    cases named : nonempty options.example? with
    | some name =>
      cases known : Example.source? name with
      | some source =>
        refine .inl ⟨source, configured, ?_⟩
        rw [readSource, text, named]
        dsimp only
        rw [known]
      | none => exact .inr (.inl (.example_ configured text named known))
    | none =>
      cases read : host.files.read ((nonempty options.script).getD "") with
      | ok source =>
        refine .inl ⟨Text.unifyLineBreaks source, configured, ?_⟩
        rw [readSource, text, named]
        dsimp only
        rw [read]
      | error e =>
        cases isSystem : e.isSystem with
        | true => exact .inr (.inl (.script configured text named read isSystem))
        | false => exact .inr (.inr ⟨_, .script configured text named read isSystem⟩)

theorem Sourced.validated_or (sourced : Sourced host options settings log source) :
    Validated host options settings log source ∨ BadScript host options ∨ ∃ crash, Escapes host options crash := by
  cases unguarded : host.interpreter.compilingGuard? settings.limits source with
  | some guard => exact .inr (.inr ⟨_, .compiling sourced unguarded⟩)
  | none =>
  cases invalid : validate settings.limits source with
  | none => exact .inl ⟨sourced, unguarded, invalid⟩
  | some e =>
    by_cases incomparable : ∃ typeName, e.cause = .tooDeep (.incomparable typeName)
    · rcases e with ⟨cause, line⟩
      rcases incomparable with ⟨typeName, rfl⟩
      exact .inr (.inr ⟨_, .nesting sourced unguarded invalid⟩)
    · exact .inr (.inl (.invalid sourced unguarded invalid (not_exists.mp incomparable)))

theorem Validated.tabled_or (validated : Validated host options settings log source)
    (executes : options.validateOnly = false) {path : String} (named : nonempty options.csv = some path) :
    (∃ table, Tabled host options settings log source table ∧ ∀ price, table.frame.Has price) ∨
      BadInput host options ∨ ∃ crash, Escapes host options crash := by
  cases loaded : loadBars host.files path with
  | error crash => exact .inr (.inr ⟨crash, .table validated executes named loaded⟩)
  | ok table =>
    have tabled : Tabled host options settings log source table := ⟨validated, executes, path, named, loaded⟩
    by_cases complete : ∀ price, table.frame.Has price
    · exact .inl ⟨table, tabled, complete⟩
    · rcases not_forall.mp complete with ⟨price, lacks⟩
      exact .inr (.inl (.table tabled lacks))

/-- Nothing of a script interrupts its execution. -/
theorem Prepared.escapes_of_interrupted (prepared : Prepared host options settings log source table parameters)
    (no : options.HasNoIntegers) {interruption : Interruption Float}
    (interrupted : host.interpreter.executeSource settings.limits source (.frame table.frame) parameters =
      .error interruption) : Escapes host options (.interrupted interruption) := by
  rcases validate_eq_none_iff.mp prepared.valid with ⟨script, compiles⟩
  have executes := prepared.executeSource_eq compiles (.frame table.frame) parameters
  rw [executes] at interrupted
  cases read : table.frame.toMarket with
  | error e =>
    rw [Interpreter.execute, BarInput.toMarket, read] at interrupted
    cases interrupted
    exact .frame prepared read
  | ok market =>
  have regular := (Frame.toMarket_isRegular prepared.isRegular market read).2
  have executed := host.interpreter.execute_of_toMarket script settings.limits (.frame table.frame) read parameters
  cases exhausts : host.interpreter.exhausts settings.limits script.statements market parameters with
  | true =>
    rw [executed, exhausts, if_pos rfl] at interrupted
    cases interrupted
    exact .stack prepared compiles read exhausts
  | false =>
  rw [exhausts, if_neg Bool.false_ne_true] at executed
  have performs := script.perform_performs settings.limits regular parameters
  generalize script.perform settings.limits market parameters = performed at performs executed
  rw [executed] at interrupted
  cases performs with
  | succeeds succeeds =>
    change Interpreter.reported _ _ = _ at interrupted
    rw [Interpreter.reported, succeeds] at interrupted
    cases interrupted
  | fails failed isFault given =>
    change Interpreter.reported _ _ = _ at interrupted
    rcases host.interpreter.reported_cases failed with reported | ⟨most, i, stopped, bounded, long, shown⟩
    · rw [reported] at interrupted
      cases interrupted
    · rw [stopped] at interrupted
      cases interrupted
      rcases given i shown with ⟨name, isInteger⟩ | isLimit
      · exact absurd isInteger (parametersOf_ne_integer no prepared.assigns name i)
      · exact .message prepared bounded long isLimit (executes.trans (executed.trans stopped))
  | integerTooLarge isInteger => exact absurd isInteger (parametersOf_ne_integer no prepared.assigns _ _)
  | limit exceeded =>
    cases interrupted
    exact .limit prepared compiles read exhausts exceeded
  | columns several =>
    cases interrupted
    exact .columns prepared read several (executes.trans executed)

theorem Tabled.executed_or (tabled : Tabled host options settings log source table)
    (complete : ∀ price, table.frame.Has price) (no : options.HasNoIntegers) :
    (∃ parameters execution, Executed host options settings log source table parameters execution) ∨
      ∃ crash, Escapes host options crash := by
  cases assigns : parametersOf options with
  | error crash => exact .inr ⟨crash, .parameters tabled complete assigns⟩
  | ok parameters =>
    have prepared : Prepared host options settings log source table parameters := ⟨tabled, complete, assigns⟩
    cases executed : host.interpreter.executeSource settings.limits source (.frame table.frame) parameters with
    | ok execution => exact .inl ⟨parameters, execution, prepared, executed⟩
    | error interruption => exact .inr ⟨_, prepared.escapes_of_interrupted no executed⟩

theorem Executed.succeeds_or (executed : Executed host options settings log source table parameters execution) :
    Succeeds host options ∨ BadScript host options ∨ ∃ crash, Escapes host options crash := by
  cases fails : execution.failure with
  | some failure => exact .inr (.inl (.failed executed fails))
  | none =>
    by_cases several : 1 < execution.width
    · exact .inr (.inr ⟨_, .width executed fails several⟩)
    have single := Nat.not_lt.mp several
    cases joins : exportRows table execution.series with
    | error e => exact .inr (.inr ⟨_, .rows executed fails single joins⟩)
    | ok rows =>
      have joined : Joined host options settings log source table parameters execution rows :=
        ⟨executed, fails, single, joins⟩
      by_cases blocked : ∃ path crash, nonempty options.exportTo = some path ∧
          checkTarget host.files path = .error crash
      · rcases blocked with ⟨path, crash, named, blocked⟩
        exact .inr (.inr ⟨crash, .target joined named blocked⟩)
      · refine .inl (.plotted joined fun path named => ?_)
        cases checked : checkTarget host.files path with
        | ok => rfl
        | error crash => exact absurd ⟨path, crash, named, checked⟩ blocked

/-- Each stage is reached from the one before it, or the run ends there. -/
theorem succeeds_or_fails (no : options.HasNoIntegers)
    (hasTable : ∀ settings log source, Validated host options settings log source → options.validateOnly = false →
      ∃ path, nonempty options.csv = some path) :
    Succeeds host options ∨ BadInput host options ∨ BadScript host options ∨
      ∃ crash, Escapes host options crash := by
  cases runs : options.listExamples with
  | true => exact .inl (.listed runs)
  | false =>
  cases reads : loadSettings host options.config with
  | error crash => exact .inr (.inr (.inr ⟨crash, .settings runs reads⟩))
  | ok settings =>
  cases logs : openLog host.files settings with
  | error e => exact .inr (.inr (.inr ⟨_, .log runs reads logs⟩))
  | ok log =>
  have configured : Configured host options settings log := ⟨runs, reads, logs⟩
  rcases configured.sourced_or with ⟨source, sourced⟩ | bad | escapes
  · rcases sourced.validated_or with validated | bad | escapes
    · cases executes : options.validateOnly with
      | true => exact .inl (.validated validated executes)
      | false =>
        rcases hasTable settings log source validated executes with ⟨path, named⟩
        rcases validated.tabled_or executes named with ⟨table, tabled, complete⟩ | bad | escapes
        · rcases tabled.executed_or complete no with ⟨parameters, execution, executed⟩ | escapes
          · exact executed.succeeds_or.imp_right .inr
          · exact .inr (.inr (.inr escapes))
        · exact .inr (.inl bad)
        · exact .inr (.inr (.inr escapes))
    · exact .inr (.inr (.inl bad))
    · exact .inr (.inr (.inr escapes))
  · exact .inr (.inl bad)
  · exact .inr (.inr (.inr escapes))

/-! ## Exit statuses -/

def ExitsWith (host : Host) (arguments : List String) (status : Nat) : Prop :=
  ∃ outcome, run host arguments = .ok outcome ∧ outcome.status = status

theorem ExitsWith.unique {arguments : List String} {status status' : Nat} (exits : ExitsWith host arguments status)
    (exits' : ExitsWith host arguments status') : status = status' := by
  rcases exits with ⟨outcome, ran, rfl⟩
  rcases exits' with ⟨outcome', ran', rfl⟩
  rw [ran] at ran'
  cases ran'
  rfl

namespace Accepts

variable {arguments : List String}

theorem run_eq (accepts : Accepts host arguments options) : run host arguments = runOptions host options := by
  rw [run, accepts.read]

theorem crashes (accepts : Accepts host arguments options) {crash : Crash} (escapes : Escapes host options crash) :
    run host arguments = .error crash :=
  accepts.run_eq.trans (escapes.runOptions_eq accepts.hasSource)

theorem all (accepts : Accepts host arguments options) :
    Succeeds host options ∨ BadInput host options ∨ BadScript host options ∨
      ∃ crash, Escapes host options crash :=
  succeeds_or_fails (Options.ofArguments_hasNoIntegers arguments options accepts.read) accepts.hasTable

end Accepts

namespace Sample

end Sample

end IndicatorScript.CommandLine
