import IndicatorScript.Panel.Run
import IndicatorScript.Proofs.Run.Composition

/-!
# Executions and the ways to them

A source can be validated, compiled, executed, or run for its series alone, and a script that was compiled can be
executed on its own. These ways agree on what is a script, on what is wrong with a source that is none, and on the
result (`entries_agree`).
-/

namespace IndicatorScript

variable {α : Type}

/-! ## Classes of failure -/

def Failure.fault? : Failure α → Option Fault
  | .notCompiled _ => some .syntaxError
  | .notEvaluated e => e.fault?

def Execution.fault? (execution : Execution α) : Option Fault := execution.failure.bind Failure.fault?

theorem EvalError.fault?_ne_syntaxError (e : EvalError α) : e.fault? ≠ some .syntaxError := by
  cases e <;> nofun

variable [Number α] [Literal α] {script : Script α} {limits : Limits} {input : BarInput α}
  {parameters : Bindings (Value α)} {execution : Execution α}

/-! ## Executing a script -/

theorem exists_run_of_execute (executed : script.execute limits input parameters = .ok execution)
    (succeeds : execution.failure = none) :
    ∃ stamped after plot, input.toBars = .ok stamped ∧
      Context.run limits { bars := stamped.bars, parameters } script.statements = ⟨after, .ok plot⟩ ∧
      execution = { series := plot, failure := none, study := after.study } := by
  unfold Script.execute at executed
  split at executed
  · cases executed
  next stamped read =>
  dsimp only at executed
  rcases run : Context.run limits { bars := stamped.bars, parameters } script.statements with ⟨after, result⟩
  rw [run] at executed
  cases result with
  | ok plot =>
    cases executed
    exact ⟨stamped, after, plot, read, run, rfl⟩
  | error e =>
    dsimp only at executed
    split at executed
    · cases executed
      cases succeeds
    · cases executed

theorem execute_of_run {stamped : StampedBars α} {after : Context α} {plot : List α}
    (read : input.toBars = .ok stamped)
    (run : Context.run limits { bars := stamped.bars, parameters } script.statements = ⟨after, .ok plot⟩) :
    script.execute limits input parameters = .ok { series := plot, failure := none, study := after.study } := by
  simp only [Script.execute, read, run]

/-! ## Executing a script over a table -/

namespace Panel.Context

variable {context after : Panel.Context α} {plotted plot : Panel.Series α} {statements : List (Statement α)}

omit [Literal α] in
theorem study_step {next : Panel.Context α} {statement : Statement α} {shown : Option (Panel.Series α)}
    (stepped : context.step statement = .ok (next, shown)) : next.study = statement.header?.getD context.study := by
  cases statement with
  | study header =>
    cases stepped
    rfl
  | scalar name value =>
    rcases exists_of_bind_eq_ok stepped with ⟨x, -, same⟩
    cases same
    rfl
  | series name value =>
    rcases exists_of_bind_eq_ok stepped with ⟨values, -, same⟩
    cases same
    cases values <;> rfl
  | plot value =>
    rcases exists_of_bind_eq_ok stepped with ⟨values, -, same⟩
    cases same
    rfl

omit [Literal α] in
/-- The header that is met last in a run to its end is the last one of the statements. -/
theorem study_runFrom (run : context.runFrom plotted statements = ⟨after, .ok plot⟩) :
    after.study = (Script.study? ⟨statements⟩).getD context.study := by
  induction statements generalizing context plotted with
  | nil =>
    cases run
    rfl
  | cons statement rest ih =>
    simp only [runFrom] at run
    split at run
    · cases run
    · next next shown stepped => rw [ih run, study_step stepped, Script.study?_cons]

omit [Literal α] in
theorem study_run (run : context.run limits statements = ⟨after, .ok plot⟩) :
    after.study = (Script.study? ⟨statements⟩).getD context.study := by
  unfold Panel.Context.run at run
  split at run
  · cases run
  · exact study_runFrom run

end Panel.Context

variable {market : Market α}

omit [Literal α] in
/-- What is performed ends without a failure at the end of a run, and fails with what is no syntax error. -/
theorem perform_cases (performed : script.perform limits market parameters = .ok execution) :
    execution.failure = none ∧ execution.study = script.study?.getD {} ∨
      ∃ e : EvalError α, execution.failure = some (.notEvaluated e) := by
  unfold Script.perform at performed
  rcases ran : Panel.Context.run limits { bars := market.bars, further := market.further, parameters }
    script.statements with ⟨after, result⟩
  rw [ran] at performed
  cases result with
  | ok plot =>
    cases performed
    exact .inl ⟨rfl, Panel.Context.study_run ran⟩
  | error e =>
    dsimp only at performed
    split at performed
    · cases performed
      exact .inr ⟨e, rfl⟩
    · cases performed

variable {interpreter : Interpreter α}

theorem exists_perform_of_execute (executed : interpreter.execute script limits input parameters = .ok execution) :
    ∃ market, input.toMarket = .ok market ∧ script.perform limits market parameters = .ok execution := by
  unfold Interpreter.execute at executed
  rcases exists_of_bind_eq_ok executed with ⟨market, read, executed⟩
  have read : input.toMarket = .ok market := by
    cases given : input.toMarket with
    | error e =>
      rw [given] at read
      cases read
    | ok other =>
      rw [given] at read
      cases read
      rfl
  refine ⟨market, read, ?_⟩
  split at executed
  · cases executed
  · rcases exists_of_bind_eq_ok executed with ⟨performed, same, reported⟩
    unfold Interpreter.reported at reported
    split at reported
    · cases reported
    · cases reported
      exact same

theorem study_of_execute (executed : interpreter.execute script limits input parameters = .ok execution)
    (succeeds : execution.failure = none) : execution.study = script.study?.getD {} := by
  rcases exists_perform_of_execute executed with ⟨market, -, performed⟩
  rcases perform_cases performed with ⟨-, study⟩ | ⟨e, failed⟩
  · exact study
  · rw [succeeds] at failed
    cases failed

theorem fault?_of_execute (executed : interpreter.execute script limits input parameters = .ok execution) :
    execution.fault? ≠ some .syntaxError := by
  rcases exists_perform_of_execute executed with ⟨market, -, performed⟩
  rcases perform_cases performed with ⟨succeeds, -⟩ | ⟨e, failed⟩
  · rw [Execution.fault?, succeeds]
    nofun
  · rw [Execution.fault?, failed]
    exact e.fault?_ne_syntaxError

/-! ## Executing a source -/

section Source

variable {source : String} (unguarded : interpreter.compilingGuard? limits source = none)

include unguarded

theorem Interpreter.executeSource_of_ok (compiled : compile limits source = .ok script) :
    interpreter.executeSource limits source input parameters = interpreter.execute script limits input parameters := by
  rw [executeSource, unguarded, compiled]

theorem Interpreter.executeSource_of_error {e : SyntaxError} (refused : compile (α := α) limits source = .error e) :
    interpreter.executeSource limits source input parameters =
      .ok { series := [], failure := some (.notCompiled e) } := by
  rw [executeSource, unguarded, refused]

theorem compiles_iff : (∃ script : Script α, compile limits source = .ok script) ↔
    ∀ execution, interpreter.executeSource limits source input parameters = .ok execution →
      execution.fault? ≠ some .syntaxError := by
  constructor
  · rintro ⟨script, compiled⟩ execution executed
    exact fault?_of_execute ((interpreter.executeSource_of_ok unguarded compiled).symm.trans executed)
  · intro clean
    cases compiled : compile (α := α) limits source with
    | ok script => exact ⟨script, rfl⟩
    | error e => exact absurd rfl (clean _ (interpreter.executeSource_of_error unguarded compiled))

end Source

theorem validate_eq_some_iff {source : String} {e : SyntaxError} :
    validate limits source = some e ↔ compile (α := Float) limits source = .error e := by
  unfold validate
  cases compile (α := Float) limits source <;> simp

theorem validate_eq_none_iff {source : String} :
    validate limits source = none ↔ ∃ script : Script Float, compile limits source = .ok script := by
  unfold validate
  cases compile (α := Float) limits source <;> simp

theorem entries_agree (interpreter : Interpreter Float) (limits : Limits) (source : String) (input : BarInput Float)
    (parameters : Bindings (Value Float)) (unguarded : interpreter.compilingGuard? limits source = none) :
    let executed := interpreter.executeSource limits source input parameters
    let ran := interpreter.runSource limits source input parameters
    (validate limits source = none ↔ ∃ script : Script Float, compile limits source = .ok script) ∧
    (validate limits source = none ↔
      ∀ execution, executed = .ok execution → execution.fault? ≠ some .syntaxError) ∧
    (∀ e, validate limits source = some e →
      executed = .ok { series := [], failure := some (.notCompiled e), study := {} }) ∧
    (∀ script, compile limits source = .ok script → executed = interpreter.execute script limits input parameters ∧
      ∀ execution, executed = .ok execution → execution.failure = none →
        execution.study = script.study?.getD { title := "", shortTitle := "", overlay := false }) ∧
    (∀ execution, executed = .ok execution →
      (execution.failure = none → ran = .ok (.ok execution.series)) ∧
      ∀ failure, execution.failure = some failure → ran = .ok (.error failure)) ∧
    ∀ e, executed = .error e → ran = .error e := by
  refine ⟨validate_eq_none_iff, validate_eq_none_iff.trans (compiles_iff unguarded), fun e invalid => ?_,
    fun script compiled => ⟨interpreter.executeSource_of_ok unguarded compiled, fun execution executed succeeds => ?_⟩,
    fun execution executed => ⟨fun succeeds => ?_, fun failure failed => ?_⟩, fun e interrupted => ?_⟩
  · exact interpreter.executeSource_of_error unguarded (validate_eq_some_iff.mp invalid)
  · exact study_of_execute ((interpreter.executeSource_of_ok unguarded compiled).symm.trans executed) succeeds
  · rw [Interpreter.runSource, executed, Except.map, Execution.series?, succeeds]
  · rw [Interpreter.runSource, executed, Except.map, Execution.series?, failed]
  · rw [Interpreter.runSource, interrupted, Except.map]

theorem entries_agree_sample :
    let interpreter : Interpreter Float := .unbounded
    interpreter.compilingGuard? {} "plot(" = none ∧
      ∃ e, validate {} "plot(" = some e ∧
        interpreter.executeSource {} "plot(" (.bars ⟨[], Sample.bars⟩) {} =
          .ok { series := [], failure := some (.notCompiled e), study := {} } := by
  intro interpreter
  have invalid : (validate {} "plot(").isSome = true := by cbv
  rcases Option.isSome_iff_exists.mp invalid with ⟨e, invalid⟩
  exact ⟨rfl, e, invalid,
    (entries_agree interpreter {} "plot(" (.bars ⟨[], Sample.bars⟩) {} rfl).2.2.1 e invalid⟩

end IndicatorScript
