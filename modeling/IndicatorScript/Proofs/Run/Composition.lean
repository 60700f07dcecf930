import IndicatorScript.Engine
import IndicatorScript.Proofs.Run.Prefix

/-!
# Runs are composed of their statements

Running two lists of statements one after the other is running the second in the context that the first leaves, unless
the first fails. A statement that fails leaves the context as the statements before it have left it, and a run that
exceeds a limit leaves it as it was. All of this is `run_composed`.
-/

namespace IndicatorScript

variable {α : Type}

def Statement.header? : Statement α → Option Study
  | .study header => some header
  | _ => none

theorem Script.study?_cons (statement : Statement α) (rest : List (Statement α)) (before : Study) :
    (Script.study? ⟨statement :: rest⟩).getD before =
      (Script.study? ⟨rest⟩).getD (statement.header?.getD before) := by
  cases statement with
  | study header => simp [Script.study?, List.getLast?_cons, Statement.header?]
  | _ => rfl

theorem Limits.exceeded?_eq_none_iff {limits : Limits} {statements bars : Nat} :
    limits.exceeded? (α := α) statements bars = none ↔
      limits.statements.allows statements = true ∧ limits.bars.allows bars = true := by
  unfold exceeded?
  split
  · next exceeded => simp_all
  · split <;> simp_all

variable [Number α]

namespace Context

variable {context after : Context α} {plotted plot : List α} {statements : List (Statement α)} {err : EvalError α}

theorem study_step {next : Context α} {statement : Statement α} {shown : Option (List α)}
    (stepped : context.step statement = .ok (next, shown)) :
    next.study = statement.header?.getD context.study := by
  rcases step_cases stepped with ⟨_, rfl, rfl, -⟩ | ⟨_, _, _, rfl, -, -, rfl⟩ | ⟨_, _, _, rfl, -, -, rfl⟩ |
    ⟨_, _, rfl, -, rfl, -⟩
  all_goals rfl

theorem bars_runFrom (run : context.runFrom plotted statements = ⟨after, .ok plot⟩) : after.bars = context.bars :=
  runFrom_induction (motive := fun context _ after => after.bars = context.bars) (fun _ => rfl)
    (fun stepped further => further.trans (bars_step stepped)) run

theorem study_runFrom (run : context.runFrom plotted statements = ⟨after, .ok plot⟩) :
    after.study = (Script.study? ⟨statements⟩).getD context.study := by
  refine runFrom_induction
    (motive := fun context statements after => after.study = (Script.study? ⟨statements⟩).getD context.study)
    (fun _ => rfl) (fun stepped further => ?_) run
  rw [further, study_step stepped, Script.study?_cons]

/-- What was plotted before a run shows only if the run plots nothing itself. -/
theorem runFrom_eq (context : Context α) (plotted other : List α) (statements : List (Statement α)) :
    context.runFrom plotted statements =
      ⟨(context.runFrom other statements).context,
        if statements.any Statement.isPlot then (context.runFrom other statements).plotted
        else (context.runFrom other statements).plotted.map fun _ => plotted⟩ := by
  induction statements generalizing context plotted other with
  | nil => rfl
  | cons statement rest ih =>
    simp only [runFrom, List.any_cons]
    cases stepped : context.step statement with
    | error err => simp [Except.map]
    | ok out =>
      rcases out with ⟨next, shown⟩
      have isPlot := isSome_step stepped
      -- from the first plot on, both runs have the same series plotted last
      cases shown with
      | none => simpa [← isPlot] using ih next plotted other
      | some values => simp [← isPlot]

theorem runFrom_eq_error_iff : context.runFrom plotted statements = ⟨after, .error err⟩ ↔
    ∃ before statement rest plot, statements = before ++ statement :: rest ∧
      context.runFrom plotted before = ⟨after, .ok plot⟩ ∧ after.step statement = .error err := by
  constructor
  · intro run
    induction statements generalizing context plotted with
    | nil => cases run
    | cons statement rest ih =>
      simp only [runFrom] at run
      cases stepped : context.step statement with
      | error e =>
        rw [stepped] at run
        cases run
        exact ⟨[], statement, rest, plotted, rfl, rfl, stepped⟩
      | ok out =>
        rw [stepped] at run
        rcases ih run with ⟨before, failing, rest, plot, rfl, reached, fails⟩
        refine ⟨statement :: before, failing, rest, plot, rfl, ?_, fails⟩
        simp only [runFrom, stepped]
        exact reached
  · rintro ⟨before, statement, rest, plot, rfl, reached, fails⟩
    rw [runFrom_append_of_ok reached]
    simp only [runFrom, fails]

end Context

/-- A run ends early after these statements, with the next one, which fails in the context that they leave. -/
def Context.EndsAfter (limits : Limits) (context : Context α) (statements before : List (Statement α))
    (reached : Context α) (err : EvalError α) : Prop :=
  ∃ statement rest plot, statements = before ++ statement :: rest ∧
    context.run limits before = ⟨reached, .ok plot⟩ ∧ reached.step statement = .error err

section Run

variable {limits : Limits} {context : Context α} {statements first second : List (Statement α)}

theorem run_of_allowed (few : limits.statements.allows statements.length = true)
    (short : limits.bars.allows context.bars.length = true) :
    context.run limits statements = context.runFrom [] statements :=
  run_of_within (Limits.exceeded?_eq_none_iff.mpr ⟨few, short⟩)

theorem run_append_of_error (few : limits.statements.allows (first ++ second).length = true)
    (short : limits.bars.allows context.bars.length = true) {err : EvalError α}
    (fails : (context.run limits first).plotted = .error err) :
    context.run limits (first ++ second) = context.run limits first := by
  have fewer : limits.statements.allows first.length = true := Limit.allows_of_le few (by simp)
  rw [run_of_allowed fewer short] at fails ⊢
  rw [run_of_allowed few short]
  rcases run : context.runFrom [] first with ⟨reached, plotted⟩
  rw [run] at fails
  obtain rfl : plotted = .error err := fails
  exact Context.runFrom_append_of_error run second

theorem run_append_of_ok (few : limits.statements.allows (first ++ second).length = true)
    (short : limits.bars.allows context.bars.length = true) {plot : List α}
    (succeeds : (context.run limits first).plotted = .ok plot) :
    let further := (context.run limits first).context.run limits second
    context.run limits (first ++ second) =
      ⟨further.context,
        if second.any Statement.isPlot then further.plotted else further.plotted.map fun _ => plot⟩ := by
  have fewer : limits.statements.allows first.length = true := Limit.allows_of_le few (by simp)
  have fewer' : limits.statements.allows second.length = true := Limit.allows_of_le few (by simp)
  rw [run_of_allowed fewer short] at succeeds ⊢
  rw [run_of_allowed few short]
  rcases run : context.runFrom [] first with ⟨reached, plotted⟩
  rw [run] at succeeds
  obtain rfl : plotted = .ok plot := succeeds
  have short' : limits.bars.allows reached.bars.length = true := by rwa [Context.bars_runFrom run]
  dsimp only
  rw [Context.runFrom_append_of_ok run, run_of_allowed fewer' short']
  exact reached.runFrom_eq plot [] second

theorem run_eq_error_iff (few : limits.statements.allows statements.length = true)
    (short : limits.bars.allows context.bars.length = true) {after : Context α} {err : EvalError α} :
    context.run limits statements = ⟨after, .error err⟩ ↔
      ∃ before, context.EndsAfter limits statements before after err := by
  rw [run_of_allowed few short, Context.runFrom_eq_error_iff]
  have same {before rest : List (Statement α)} {statement : Statement α}
      (split : statements = before ++ statement :: rest) :
      context.run limits before = context.runFrom [] before :=
    run_of_allowed (Limit.allows_of_le few (by simp [split])) short
  constructor
  · rintro ⟨before, statement, rest, plot, split, reached, fails⟩
    exact ⟨before, statement, rest, plot, split, (same split).trans reached, fails⟩
  · rintro ⟨before, statement, rest, plot, split, reached, fails⟩
    exact ⟨before, statement, rest, plot, split, (same split).symm.trans reached, fails⟩

theorem run_of_exceeded {err : EvalError α}
    (exceeded : limits.exceeded? statements.length context.bars.length = some err) :
    context.run limits statements = ⟨context, .error err⟩ := by
  rw [Context.run, exceeded]

theorem Context.EndsAfter.study {before : List (Statement α)} {reached : Context α} {err : EvalError α}
    (ends : context.EndsAfter limits statements before reached err) :
    reached.study = (Script.study? ⟨before⟩).getD context.study := by
  rcases ends with ⟨_, _, plot, -, run, -⟩
  have within := within_of_ok (congrArg Run.plotted run)
  rw [run_of_within within] at run
  exact Context.study_runFrom run

end Run

omit [Number α] in
theorem Limits.fault?_of_exceeded? {limits : Limits} {statements bars : Nat} {err : EvalError α}
    (exceeded : limits.exceeded? statements bars = some err)
    (numbers : ∀ typeName, limits.statements ≠ .incomparable typeName ∧ limits.bars ≠ .incomparable typeName) :
    err.fault? = some .resourceLimit := by
  rcases exceeded?_cases exceeded with rfl | rfl
  · rcases limits.statements.violation_cases (.tooManyStatements (α := α) statements limits.statements) with
      same | ⟨typeName, incomparable, -⟩
    · rw [same]
      rfl
    · exact absurd incomparable (numbers typeName).1
  · rcases limits.bars.violation_cases (.tooManyBars (α := α) bars limits.bars) with same | ⟨typeName, incomparable, -⟩
    · rw [same]
      rfl
    · exact absurd incomparable (numbers typeName).2

theorem execute_of_failure [Literal α] {script : Script α} {limits : Limits} {input : BarInput α}
    {parameters : Bindings (Value α)} {execution : Execution α} {failure : Failure α}
    (executed : script.execute limits input parameters = .ok execution) (failed : execution.failure = some failure) :
    ∃ stamped err, input.toBars = .ok stamped ∧ failure = .notEvaluated err ∧ execution.series = [] ∧
      let context : Context α := { bars := stamped.bars, parameters }
      (∃ before reached, context.EndsAfter limits script.statements before reached err ∧
        execution.study = (Script.study? ⟨before⟩).getD {}) ∨
      limits.exceeded? script.statements.length stamped.bars.length = some err ∧ execution.study = {} := by
  unfold Script.execute at executed
  split at executed
  · cases executed
  · next stamped read =>
    dsimp only at executed
    split at executed
    · cases executed
      cases failed
    · next err plotted =>
      split at executed
      · cases executed
        cases failed
        refine ⟨stamped, err, read, rfl, rfl, ?_⟩
        cases exceeded : limits.exceeded? (α := α) script.statements.length stamped.bars.length with
        | some e =>
          have untouched : Context.run limits { bars := stamped.bars, parameters } script.statements =
              ⟨{ bars := stamped.bars, parameters }, .error e⟩ :=
            run_of_exceeded exceeded
          rw [untouched] at plotted ⊢
          cases plotted
          exact .inr ⟨rfl, rfl⟩
        | none =>
          rcases Limits.exceeded?_eq_none_iff.mp exceeded with ⟨few, short⟩
          rcases run : Context.run limits { bars := stamped.bars, parameters } script.statements with ⟨reached, result⟩
          rw [run] at plotted
          obtain rfl : result = .error err := plotted
          rcases (run_eq_error_iff few short).mp run with ⟨before, ends⟩
          exact .inl ⟨before, reached, ends, ends.study⟩
      · cases executed

theorem run_composed [Literal α] (limits : Limits) (context : Context α) :
    (∀ first second : List (Statement α), limits.statements.allows (first ++ second).length = true →
      limits.bars.allows context.bars.length = true →
      (∀ err, (context.run limits first).plotted = .error err →
        context.run limits (first ++ second) = context.run limits first) ∧
      ∀ plot, (context.run limits first).plotted = .ok plot →
        let further := (context.run limits first).context.run limits second
        context.run limits (first ++ second) =
          ⟨further.context,
            if second.any Statement.isPlot then further.plotted else further.plotted.map fun _ => plot⟩) ∧
    (∀ statements : List (Statement α), limits.statements.allows statements.length = true →
      limits.bars.allows context.bars.length = true →
      ∀ after err, context.run limits statements = ⟨after, .error err⟩ ↔
        ∃ before, context.EndsAfter limits statements before after err) ∧
    (∀ statements : List (Statement α),
      ¬ (limits.statements.allows statements.length = true ∧ limits.bars.allows context.bars.length = true) →
      ∃ err, context.run limits statements = ⟨context, .error err⟩ ∧
        ((∀ typeName, limits.statements ≠ .incomparable typeName ∧ limits.bars ≠ .incomparable typeName) →
          err.fault? = some .resourceLimit)) ∧
    ∀ (script : Script α) input parameters execution failure,
      script.execute limits input parameters = .ok execution → execution.failure = some failure →
      ∃ stamped err, input.toBars = .ok stamped ∧ failure = .notEvaluated err ∧ execution.series = [] ∧
        let fresh : Context α := { bars := stamped.bars, parameters }
        (∃ before reached, fresh.EndsAfter limits script.statements before reached err ∧
          execution.study = (Script.study? ⟨before⟩).getD {}) ∨
        limits.exceeded? script.statements.length stamped.bars.length = some err ∧ execution.study = {} := by
  refine ⟨fun first second few short => ⟨fun err => run_append_of_error few short, fun plot => ?_⟩,
    fun statements few short after err => run_eq_error_iff few short, fun statements beyond => ?_,
    fun script input parameters execution failure => execute_of_failure⟩
  · exact run_append_of_ok few short
  · cases exceeded : limits.exceeded? (α := α) statements.length context.bars.length with
    | none => exact absurd (Limits.exceeded?_eq_none_iff.mp exceeded) beyond
    | some err => exact ⟨err, run_of_exceeded exceeded, Limits.fault?_of_exceeded? exceeded⟩

theorem run_composed_sample :
    let level : Statement Float := .plot (.number 2.0)
    let header : Statement Float := .study { title := "Level" }
    let whole := Context.run {} { bars := Sample.bars } ([level] ++ [header])
    whole.plotted = .ok [2.0, 2.0, 2.0] ∧ whole.context.study.title = "Level" := by
  have plots : (Context.run {} { bars := Sample.bars } [.plot (.number 2.0)]).plotted = .ok [2.0, 2.0, 2.0] := rfl
  have composed := ((run_composed {} { bars := Sample.bars }).1 [.plot (.number 2.0)] [.study { title := "Level" }]
    (by decide) (by decide)).2 _ plots
  dsimp only at composed ⊢
  rw [composed]
  exact ⟨rfl, rfl⟩

end IndicatorScript
