import IndicatorScript.Proofs.Expr.Meaning
import IndicatorScript.Proofs.Run.Alignment
import IndicatorScript.Proofs.Run.Composition

/-!
# Scripts that only division can fail

Scripts of a header, inputs, series and plots, in which every input is what it is used as and every series means one
(`Draws`). Such a script runs on all bars unless one of the operands that it divides by is zero, and then it fails for
that (`Chart.execute`).
-/

namespace IndicatorScript

variable {α : Type}

/-- What an input gives: the parameter of that title, or else the default. -/
def givenOr (parameters : Bindings (Value α)) (title : String) (default : α) : Value α :=
  (parameters.get? title).getD (.number default)

variable [Number α]

section Names

variable {context : Context α} {meanings : Bindings (Meaning α)} {name : String}

theorem Meaning.IsOf.congr {before after : Context α} {meaning : Meaning α} (isOf : meaning.IsOf before name)
    (bars : after.bars = before.bars) (scalar : after.scalar? name = before.scalar? name)
    (series : after.series.get? name = before.series.get? name) : meaning.IsOf after name := by
  cases meaning with
  | number x =>
    rw [IsOf, Context.hasSeries_eq_false_iff] at isOf ⊢
    rwa [scalar, series]
  | length n =>
    rw [IsOf, Context.hasSeries_eq_false_iff] at isOf ⊢
    rwa [scalar, series]
  | series values =>
    rw [IsOf] at isOf ⊢
    rwa [series, bars]

theorem Context.Knows.insert {before after : Context α} {meaning : Meaning α} (knows : before.Knows meanings)
    (isOf : meaning.IsOf after name) (bars : after.bars = before.bars)
    (scalar : ∀ other, other ≠ name → after.scalar? other = before.scalar? other)
    (series : ∀ other, other ≠ name → after.series.get? other = before.series.get? other) :
    after.Knows (meanings.insert name meaning) := by
  intro other found bound
  rcases Bindings.get?_insert_cases bound with ⟨rfl, rfl⟩ | ⟨different, bound⟩
  · exact isOf
  · exact (knows other found bound).congr bars (scalar other different) (series other different)

theorem Context.Knows.scalar {value : Value α} {meaning : Meaning α} (knows : context.Knows meanings)
    (isOf : (∃ x, meaning = .number x ∧ value.toNumber = .ok x) ∨
      ∃ n, meaning = .length n ∧ value.toLength = .ok n) :
    Context.Knows { context with
      scalars := context.scalars.insert name value
      series := context.series.erase name } (meanings.insert name meaning) := by
  refine knows.insert ?_ rfl (fun other different => ?_) fun other => context.series.get?_erase_of_ne
  · rcases isOf with ⟨x, rfl, isNumber⟩ | ⟨n, rfl, isLength⟩
    · exact ⟨by simp [hasSeries_eq_false_iff], value, by simp [Context.scalar?], isNumber⟩
    · exact ⟨by simp [hasSeries_eq_false_iff], value, by simp [Context.scalar?], isLength⟩
  · simp only [Context.scalar?, Bindings.get?_insert_of_ne context.scalars value different]

theorem Context.Knows.series {values : List α} (knows : context.Knows meanings)
    (length : values.length = context.bars.length) :
    Context.Knows { context with
      scalars := context.scalars.erase name
      series := context.series.insert name values } (meanings.insert name (.series values)) := by
  refine knows.insert ⟨Bindings.get?_insert_self _ _ _, length⟩ rfl (fun other different => ?_)
    fun other => context.series.get?_insert_of_ne values
  simp only [Context.scalar?, Bindings.get?_erase_of_ne context.scalars different]

end Names

/-- Statements whose inputs and series are what their uses need, given what names mean, and what they divide by. -/
inductive Draws (bars : List (Bar α)) (parameters : Bindings (Value α)) :
    Bindings (Meaning α) → List (Statement α) → List (Operand α) → Prop where
  | done (meanings : Bindings (Meaning α)) : Draws bars parameters meanings [] []
  | study {meanings : Bindings (Meaning α)} {header : Study} {rest : List (Statement α)} {divisors : List (Operand α)}
      (further : Draws bars parameters meanings rest divisors) :
      Draws bars parameters meanings (.study header :: rest) divisors
  | length {meanings : Bindings (Meaning α)} {name title : String} {default : α} {n : Nat}
      {rest : List (Statement α)} {divisors : List (Operand α)}
      (isLength : (givenOr parameters title default).toLength = .ok n)
      (further : Draws bars parameters (meanings.insert name (.length n)) rest divisors) :
      Draws bars parameters meanings (.scalar name (.call "input" [.text title, .number default]) :: rest) divisors
  | number {meanings : Bindings (Meaning α)} {name title : String} {default x : α}
      {rest : List (Statement α)} {divisors : List (Operand α)}
      (isNumber : (givenOr parameters title default).toNumber = .ok x)
      (further : Draws bars parameters (meanings.insert name (.number x)) rest divisors) :
      Draws bars parameters meanings (.scalar name (.call "input" [.text title, .number default]) :: rest) divisors
  | series {meanings : Bindings (Meaning α)} {name : String} {e : Expr α} {values : List α}
      {rest : List (Statement α)} {divisors others : List (Operand α)}
      (means : e.Means bars meanings (.series values) divisors)
      (further : Draws bars parameters (meanings.insert name (.series values)) rest others) :
      Draws bars parameters meanings (.series name e :: rest) (divisors ++ others)
  | plot {meanings : Bindings (Meaning α)} {e : Expr α} {values : List α}
      {rest : List (Statement α)} {divisors others : List (Operand α)}
      (means : e.Means bars meanings (.series values) divisors)
      (further : Draws bars parameters meanings rest others) :
      Draws bars parameters meanings (.plot e :: rest) (divisors ++ others)

theorem evalScalar_input (context : Context α) (title : String) (default : α) :
    (Expr.call "input" [.text title, .number default]).evalScalar context =
      .ok (givenOr context.parameters title default) := by
  have named : Builtin.ofName? "input" = some .input := rfl
  simp only [Expr.evalScalar, named]
  rw [if_neg (by decide)]
  dsimp only [bind, Except.bind, Expr.inputTitle, Expr.input, givenOr]
  cases context.parameters.get? title <;> rfl

theorem step_input (context : Context α) (name title : String) (default : α) :
    context.step (.scalar name (.call "input" [.text title, .number default])) = unlessZero []
      ({ context with
        scalars := context.scalars.insert name (givenOr context.parameters title default)
        series := context.series.erase name }, none) := by
  rw [Context.step, evalScalar_input]
  rfl

theorem evalDeclared_of_means {context : Context α} {meanings : Bindings (Meaning α)} {e : Expr α} {values : List α}
    {divisors : List (Operand α)} (knows : context.Knows meanings)
    (means : e.Means context.bars meanings (.series values) divisors) :
    e.evalDeclared context = unlessZero divisors values ∧ values.length = context.bars.length := by
  rcases means.evaluates knows with ⟨isSeries, length, evaluated⟩
  rw [Expr.evalDeclared, if_pos isSeries]
  exact ⟨evaluated, length⟩

/-- A run that fails for a division by zero if one of the divisors is zero, and for nothing else. -/
def Run.GivesUnlessZero (run : Run α) (divisors : List (Operand α)) : Prop :=
  if divisors.any Operand.hasZero = true then run.plotted = .error .divisionByZero
  else ∃ plot, run.plotted = .ok plot

theorem runFrom_gives_of_step {context : Context α} {statement : Statement α} {next : Context α}
    {shown : Option (List α)} {divisors others : List (Operand α)} {plotted : List α} {rest : List (Statement α)}
    (stepped : context.step statement = unlessZero divisors (next, shown))
    (further : (next.runFrom (shown.getD plotted) rest).GivesUnlessZero others) :
    (context.runFrom plotted (statement :: rest)).GivesUnlessZero (divisors ++ others) := by
  unfold Run.GivesUnlessZero at further ⊢
  rw [List.any_append]
  simp only [Context.runFrom, stepped, unlessZero]
  by_cases zero : divisors.any Operand.hasZero = true
  · simp [zero]
  · simp only [Bool.not_eq_true] at zero
    simpa only [zero, Bool.false_or, Bool.false_eq_true, if_false] using further

theorem Draws.runFrom_gives {context : Context α} {meanings : Bindings (Meaning α)}
    {statements : List (Statement α)} {divisors : List (Operand α)}
    (draws : Draws context.bars context.parameters meanings statements divisors) (knows : context.Knows meanings)
    (plotted : List α) : (context.runFrom plotted statements).GivesUnlessZero divisors := by
  obtain ⟨bars, sameBars⟩ : ∃ bars, context.bars = bars := ⟨_, rfl⟩
  obtain ⟨parameters, sameParameters⟩ : ∃ parameters, context.parameters = parameters := ⟨_, rfl⟩
  rw [sameBars, sameParameters] at draws
  induction draws generalizing context plotted with
  | done meanings => exact ⟨plotted, rfl⟩
  | @study meanings header rest divisors further ih =>
    have headed : Context.Knows { context with study := header } meanings := fun name meaning bound =>
      (knows name meaning bound).congr rfl rfl rfl
    have stepped : context.step (.study header) = unlessZero [] ({ context with study := header }, none) := rfl
    exact runFrom_gives_of_step stepped (ih headed plotted sameBars sameParameters)
  | @length meanings name title default n rest divisors isLength further ih =>
    rw [← sameParameters] at isLength
    have stepped := step_input context name title default
    exact runFrom_gives_of_step stepped (ih (knows.scalar (.inr ⟨n, rfl, isLength⟩)) plotted sameBars sameParameters)
  | @number meanings name title default x rest divisors isNumber further ih =>
    rw [← sameParameters] at isNumber
    have stepped := step_input context name title default
    exact runFrom_gives_of_step stepped (ih (knows.scalar (.inl ⟨x, rfl, isNumber⟩)) plotted sameBars sameParameters)
  | @series meanings name e values rest divisors others means further ih =>
    rw [← sameBars] at means
    rcases evalDeclared_of_means knows means with ⟨evaluated, length⟩
    have stepped : context.step (.series name e) = unlessZero divisors
        ({ context with
          scalars := context.scalars.erase name
          series := context.series.insert name values }, none) := by
      rw [Context.step, evaluated]
      exact unlessZero_map rfl
    exact runFrom_gives_of_step stepped (ih (knows.series length) plotted sameBars sameParameters)
  | @plot meanings e values rest divisors others means further ih =>
    rw [← sameBars] at means
    have stepped : context.step (.plot e) = unlessZero divisors (context, some values) := by
      rw [Context.step, (evalDeclared_of_means knows means).1]
      exact unlessZero_map rfl
    exact runFrom_gives_of_step stepped (ih knows values sameBars sameParameters)

variable [Literal α]

/-- A source that is read as a chart with this title, which divides by these operands. -/
structure Chart (source title : String) (bars : List (Bar α)) (parameters : Bindings (Value α))
    (divisors : List (Operand α)) where
  script : Script α
  compiled : compile {} source = .ok script
  titled : script.study?.map Study.title = some title
  short : script.statements.length ≤ 1000
  plots : script.statements.any Statement.isPlot = true
  draws : Draws bars parameters {} script.statements divisors

/-- An execution gives so many values under this title. -/
def Succeeds (result : Except (Interruption α) (Execution α)) (count : Nat) (title : String) : Prop :=
  ∃ execution, result = .ok execution ∧ execution.failure = none ∧ execution.series.length = count ∧
    execution.study.title = title

def FailsForZero (result : Except (Interruption α) (Execution α)) : Prop :=
  ∃ execution, result = .ok execution ∧ execution.failure = some (.notEvaluated .divisionByZero)

theorem Chart.execute {source title : String} {stamped : StampedBars α} {parameters : Bindings (Value α)}
    {divisors : List (Operand α)} (chart : Chart source title stamped.bars parameters divisors)
    (few : stamped.bars.length ≤ 100000) :
    if divisors.any Operand.hasZero = true then FailsForZero (executeSource {} source (.bars stamped) parameters)
    else Succeeds (executeSource {} source (.bars stamped) parameters) stamped.bars.length title := by
  rcases chart with ⟨script, compiled, titled, short, plots, draws⟩
  rcases Option.map_eq_some_iff.mp titled with ⟨header, found, rfl⟩
  have knows : Context.Knows { bars := stamped.bars, parameters } {} := by
    intro name meaning bound
    cases bound
  have gives := draws.runFrom_gives knows []
  have yields := (Context.runFrom_yields (Context.aligned_fresh stamped.bars parameters) [] script.statements).2
  have begun : Context.run {} { bars := stamped.bars, parameters } script.statements =
      Context.runFrom { bars := stamped.bars, parameters } [] script.statements := by
    refine run_of_allowed ?_ ?_
    · exact decide_eq_true (Int.ofNat_le.mpr short)
    · exact decide_eq_true (Int.ofNat_le.mpr few)
  simp only [executeSource, compiled, Script.execute, BarInput.toBars, begun]
  rcases run : Context.runFrom { bars := stamped.bars, parameters } [] script.statements with ⟨after, plotted⟩
  rw [run] at gives yields
  unfold Run.GivesUnlessZero at gives
  split at gives
  · next zero =>
    obtain rfl : plotted = .error .divisionByZero := gives
    rw [if_pos zero]
    exact ⟨_, rfl, rfl⟩
  · next nonzero =>
    obtain ⟨plot, rfl⟩ : ∃ plot, plotted = .ok plot := gives
    have length : plot.length = stamped.bars.length := Eq.mp (if_pos plots) yields
    have study : after.study = header := by rw [Context.study_runFrom run, found, Option.getD_some]
    rw [if_neg nonzero]
    exact ⟨_, rfl, rfl, length, congrArg Study.title study⟩

end IndicatorScript
