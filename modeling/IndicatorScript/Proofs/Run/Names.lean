import IndicatorScript.Proofs.Expr.Strictness
import IndicatorScript.Proofs.Run.Classification
import IndicatorScript.Proofs.Run.Prefix

/-!
# What the names of a script stand for

A run binds the names that its statements declare, and no others: `Context.Reaches.binds_iff` for all of them,
`Context.Reaches.hasSeries_iff` for those that stand for a series. As evaluation is strict, the names and calls of a
script that runs to its end are all right (`run_resolves`).
-/

namespace IndicatorScript

variable {α : Type}

/-! ## Declarations -/

namespace Statement

def name? : Statement α → Option String
  | .scalar name _ | .series name _ => some name
  | .study _ | .plot _ => none

/-- After the statements the name stands for a series: one was declared, and no scalar since. -/
def IsSeriesAfter (name : String) (statements : List (Statement α)) : Prop :=
  ∃ earlier value later, statements = earlier ++ .series name value :: later ∧ ∀ value', .scalar name value' ∉ later

theorem isSeriesAfter_cons {name : String} {statement : Statement α} {rest : List (Statement α)} :
    IsSeriesAfter name (statement :: rest) ↔
      IsSeriesAfter name rest ∨ (∃ value, statement = .series name value) ∧ ∀ value', .scalar name value' ∉ rest := by
  constructor
  · rintro ⟨earlier, value, later, same, kept⟩
    rcases List.cons_eq_append_iff.mp same with ⟨rfl, same⟩ | ⟨earlier, rfl, rfl⟩
    · cases same
      exact .inr ⟨⟨value, rfl⟩, kept⟩
    · exact .inl ⟨earlier, value, later, rfl, kept⟩
  · rintro (⟨earlier, value, later, rfl, kept⟩ | ⟨⟨value, rfl⟩, kept⟩)
    · exact ⟨statement :: earlier, value, later, rfl, kept⟩
    · exact ⟨[], value, rest, rfl, kept⟩

theorem mem_declaredAfter_iff {name : String} {declared : List String} {statement : Statement α} :
    name ∈ statement.declaredAfter declared ↔
      (∃ value, statement = .series name value) ∨ name ∈ declared ∧ ∀ value, statement ≠ .scalar name value := by
  cases statement with
  | study | plot => simp [declaredAfter]
  | scalar other value =>
    by_cases same : other = name
    · simp [declaredAfter, same]
    · simp [declaredAfter, same, Ne.symm same]
  | series other value =>
    by_cases same : other = name
    · simp [declaredAfter, same]
    · simp [declaredAfter, same, Ne.symm same]

theorem mem_declaredAfterAll_iff {name : String} {declared : List String} {statements : List (Statement α)} :
    name ∈ declaredAfterAll declared statements ↔
      IsSeriesAfter name statements ∨ name ∈ declared ∧ ∀ value, .scalar name value ∉ statements := by
  induction statements generalizing declared with
  | nil => simp [declaredAfterAll, IsSeriesAfter]
  | cons statement rest ih =>
    have step : name ∈ declaredAfterAll declared (statement :: rest) ↔
        name ∈ declaredAfterAll (statement.declaredAfter declared) rest := Iff.rfl
    rw [step, ih, mem_declaredAfter_iff, isSeriesAfter_cons]
    simp only [List.mem_cons, not_or, forall_and, ne_comm (b := statement)]
    constructor
    · rintro (after | ⟨declares | ⟨known, other⟩, kept⟩)
      · exact .inl (.inl after)
      · exact .inl (.inr ⟨declares, kept⟩)
      · exact .inr ⟨known, other, kept⟩
    · rintro ((after | ⟨declares, kept⟩) | ⟨known, other, kept⟩)
      · exact .inl after
      · exact .inr ⟨.inl declares, kept⟩
      · exact .inr ⟨.inr ⟨known, other⟩, kept⟩

end Statement

/-! ## Names that a run has bound -/

def Context.Binds (context : Context α) (name : String) : Prop :=
  context.hasSeries name = true ∨ context.scalars.contains name = true

theorem Context.binds_or_parameter {context : Context α} {name : String}
    (resolved : (Expr.name name).Resolved context) :
    context.Binds name ∨ context.parameters.contains name = true := by
  rw [Expr.Resolved, Context.scalar?, Option.isSome_or, Bool.or_eq_true] at resolved
  exact or_assoc.mpr resolved

variable [Number α]

namespace Context

variable {context next after : Context α} {statement : Statement α} {shown : Option (List α)}

theorem binds_step (stepped : context.step statement = .ok (next, shown)) (name : String) :
    next.Binds name ↔ statement.name? = some name ∨ context.Binds name := by
  rcases step_cases stepped with ⟨_, rfl, rfl, -⟩ | ⟨declared, _, _, rfl, -, -, rfl⟩ |
    ⟨declared, _, _, rfl, -, -, rfl⟩ | ⟨_, _, rfl, -, rfl, -⟩
  · simp [Binds, Statement.name?, hasSeries]
  · simp only [Binds, hasSeries, Bindings.contains_erase, Bindings.contains_insert, Statement.name?]
    by_cases same : name = declared
    · simp [same]
    · simp [same, Ne.symm same]
  · simp only [Binds, hasSeries, Bindings.contains_erase, Bindings.contains_insert, Statement.name?]
    by_cases same : name = declared
    · simp [same]
    · simp [same, Ne.symm same]
  · simp [Binds, Statement.name?]

theorem parameters_step (stepped : context.step statement = .ok (next, shown)) :
    next.parameters = context.parameters := by
  rcases step_cases stepped with ⟨_, -, rfl, -⟩ | ⟨_, _, _, -, -, -, rfl⟩ | ⟨_, _, _, -, -, -, rfl⟩ |
    ⟨_, _, -, -, rfl, -⟩
  all_goals rfl

theorem resolved_of_step (stepped : context.step statement = .ok (next, shown)) :
    ∀ e ∈ statement.expressions, e.AllResolved context := by
  intro e mem
  rcases step_cases stepped with ⟨_, rfl, -, -⟩ | ⟨_, value, x, rfl, evaluated, -, -⟩ |
    ⟨_, value, values, rfl, evaluated, -, -⟩ | ⟨value, values, rfl, evaluated, -, -⟩
  · cases mem
  · rcases List.mem_singleton.mp mem with rfl
    exact e.evalScalar_resolves context x evaluated
  · rcases List.mem_singleton.mp mem with rfl
    exact e.evalDeclared_resolves context values evaluated
  · rcases List.mem_singleton.mp mem with rfl
    exact e.evalDeclared_resolves context values evaluated

variable {plotted plot : List α} {statements : List (Statement α)}

theorem binds_runFrom (run : context.runFrom plotted statements = ⟨after, .ok plot⟩) (name : String) :
    after.Binds name ↔ (∃ statement ∈ statements, statement.name? = some name) ∨ context.Binds name := by
  refine runFrom_induction
    (motive := fun context statements after =>
      after.Binds name ↔ (∃ statement ∈ statements, statement.name? = some name) ∨ context.Binds name)
    (fun context => by simp) (fun stepped further => ?_) run
  rw [further, binds_step stepped]
  simp only [List.mem_cons, exists_eq_or_imp, or_assoc, or_left_comm]

theorem parameters_runFrom (run : context.runFrom plotted statements = ⟨after, .ok plot⟩) :
    after.parameters = context.parameters :=
  runFrom_induction (motive := fun context _ after => after.parameters = context.parameters) (fun _ => rfl)
    (fun stepped further => further.trans (parameters_step stepped)) run

theorem runFrom_split {before rest : List (Statement α)}
    (run : context.runFrom plotted (before ++ statement :: rest) = ⟨after, .ok plot⟩) :
    ∃ reached plotted' out, context.runFrom plotted before = ⟨reached, .ok plotted'⟩ ∧
      reached.step statement = .ok out := by
  induction before generalizing context plotted with
  | nil =>
    rcases runFrom_cons_eq_ok run with ⟨next, shown, stepped, -⟩
    exact ⟨context, plotted, (next, shown), rfl, stepped⟩
  | cons first before ih =>
    rcases runFrom_cons_eq_ok run with ⟨second, shown, stepped, further⟩
    rcases ih further with ⟨reached, plotted', out, run, steps⟩
    refine ⟨reached, plotted', out, ?_, steps⟩
    simp only [runFrom, stepped]
    exact run

theorem reaches_of_succeeds {limits : Limits} {before rest : List (Statement α)}
    (succeeds : (context.run limits (before ++ statement :: rest)).plotted = .ok plot) :
    ∃ reached out, context.Reaches before reached ∧ reached.step statement = .ok out := by
  rw [run_of_within (within_of_ok succeeds)] at succeeds
  rcases run : context.runFrom [] (before ++ statement :: rest) with ⟨last, plotted⟩
  rw [run] at succeeds
  obtain rfl : plotted = .ok plot := succeeds
  rcases runFrom_split run with ⟨reached, plotted, out, reaches, stepped⟩
  exact ⟨reached, out, ⟨plotted, reaches⟩, stepped⟩

namespace Reaches

variable {bars : List (Bar α)} {parameters : Bindings (Value α)} {before : List (Statement α)}

theorem binds_iff (reached : Reaches { bars, parameters } before context) (name : String) :
    context.Binds name ↔ ∃ statement ∈ before, statement.name? = some name := by
  rcases reached with ⟨plotted, run⟩
  rw [binds_runFrom run, or_iff_left]
  exact fun fresh => fresh.elim Bool.false_ne_true Bool.false_ne_true

theorem hasSeries_iff (reached : Reaches { bars, parameters } before context) (name : String) :
    context.hasSeries name = true ↔ Statement.IsSeriesAfter name before := by
  rcases reached with ⟨plotted, run⟩
  have agrees := (Agrees.fresh bars parameters).runFrom run
  rw [agrees.series, List.contains_iff_mem, Statement.mem_declaredAfterAll_iff, or_iff_left]
  exact fun fresh => List.not_mem_nil fresh.1

theorem parameters_eq (reached : Reaches { bars, parameters } before context) : context.parameters = parameters := by
  rcases reached with ⟨plotted, run⟩
  exact parameters_runFrom run

end Reaches

end Context

theorem run_resolves (limits : Limits) (bars : List (Bar α)) (parameters : Bindings (Value α))
    {statements : List (Statement α)} {plot : List α}
    (succeeds : (Context.run limits { bars, parameters } statements).plotted = .ok plot) :
    ∀ before statement after, statements = before ++ statement :: after → ∀ e ∈ statement.expressions,
      (∀ name, (Expr.name name).OccursIn e →
        (∃ earlier ∈ before, earlier.name? = some name) ∨ parameters.contains name = true) ∧
      (∀ function arguments, (Expr.call function arguments).OccursIn e →
        ∃ builtin, Builtin.ofName? function = some builtin ∧ builtin.signature.accepts arguments.length = true) ∧
      ∀ series position, (Expr.index series position).OccursIn e → Statement.IsSeriesAfter series before := by
  rintro before statement after rfl e mem
  rcases Context.reaches_of_succeeds succeeds with ⟨context, ⟨next, shown⟩, reached, stepped⟩
  have resolved := Context.resolved_of_step stepped e mem
  refine ⟨fun name occurs => ?_, fun function arguments occurs => resolved _ occurs, fun series position occurs => ?_⟩
  · have known := Context.binds_or_parameter (resolved _ occurs)
    rwa [reached.binds_iff, reached.parameters_eq] at known
  · exact (reached.hasSeries_iff series).mp (resolved _ occurs)

theorem run_resolves_sample :
    (Context.run {} { bars := Sample.bars } Sample.travelled).plotted = .ok [0.0, 1.5, 2.5] ∧
    ∀ before statement after, Sample.travelled = before ++ statement :: after → ∀ e ∈ statement.expressions,
      (∀ name, (Expr.name name).OccursIn e →
        (∃ earlier ∈ before, earlier.name? = some name) ∨ Bindings.contains (β := Value Float) {} name = true) ∧
      (∀ function arguments, (Expr.call function arguments).OccursIn e →
        ∃ builtin, Builtin.ofName? function = some builtin ∧ builtin.signature.accepts arguments.length = true) ∧
      ∀ series position, (Expr.index series position).OccursIn e → Statement.IsSeriesAfter series before :=
  ⟨Sample.travelled_plotted, run_resolves {} Sample.bars {} Sample.travelled_plotted⟩

end IndicatorScript
