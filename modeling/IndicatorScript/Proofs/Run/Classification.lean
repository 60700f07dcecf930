import IndicatorScript.Proofs.Run.Step
import IndicatorScript.Proofs.Statement.Reparsing

/-!
# The parser and the run agree on what is a series

The parser follows which names are series without running anything. Whenever a run from a fresh context reaches a
statement, the series of its context are exactly the names that the parser had when it read the statement.
-/

namespace IndicatorScript

variable {α : Type}

/-! ## Names of bindings -/

namespace Bindings

variable {β : Type}

theorem contains_erase (bindings : Bindings β) (name other : String) :
    (bindings.erase name).contains other = (decide (other ≠ name) && bindings.contains other) := by
  rw [contains, get?_erase, contains]
  by_cases same : other = name <;> simp [same]

theorem contains_insert (bindings : Bindings β) (name other : String) (value : β) :
    (bindings.insert name value).contains other = (decide (other = name) || bindings.contains other) := by
  rw [contains, get?_insert, contains]
  by_cases same : other = name <;> simp [same]

end Bindings

/-! ## What a run preserves -/

/-- The series of a context are these names, and no scalar is named as one of them. -/
structure Context.Agrees (declared : List String) (context : Context α) : Prop where
  series : ∀ name, context.hasSeries name = declared.contains name
  apart : ∀ name, ¬ (context.hasSeries name = true ∧ context.scalars.contains name = true)

namespace Context.Agrees

variable {declared : List String} {context : Context α}

theorem fresh (bars : List (Bar α)) (parameters : Bindings (Value α)) : Agrees [] { bars, parameters } :=
  ⟨fun _ => rfl, fun _ both => Bool.false_ne_true both.1⟩

theorem insert_scalar (agrees : context.Agrees declared) (name : String) (value : Value α) :
    Agrees (declared.filter (· ≠ name))
      { context with scalars := context.scalars.insert name value, series := context.series.erase name } := by
  constructor
  · intro other
    have known := agrees.series other
    simp only [hasSeries] at known ⊢
    rw [Bindings.contains_erase, known, Bool.eq_iff_iff]
    simp [and_comm]
  · intro other both
    simp only [hasSeries, Bindings.contains_erase, Bindings.contains_insert, Bool.and_eq_true, Bool.or_eq_true,
      decide_eq_true_eq] at both
    rcases both with ⟨⟨different, isSeries⟩, same | isScalar⟩
    · exact different same
    · exact agrees.apart other ⟨isSeries, isScalar⟩

theorem insert_series (agrees : context.Agrees declared) (name : String) (values : List α) :
    Agrees (name :: declared.filter (· ≠ name))
      { context with scalars := context.scalars.erase name, series := context.series.insert name values } := by
  constructor
  · intro other
    have known := agrees.series other
    simp only [hasSeries] at known ⊢
    rw [Bindings.contains_insert, known, Bool.eq_iff_iff]
    by_cases same : other = name
    · simp [same]
    · simp [same]
  · intro other both
    simp only [hasSeries, Bindings.contains_erase, Bindings.contains_insert, Bool.and_eq_true, Bool.or_eq_true,
      decide_eq_true_eq] at both
    rcases both with ⟨same | isSeries, different, isScalar⟩
    · exact different same
    · exact agrees.apart other ⟨isSeries, isScalar⟩

end Context.Agrees

variable [Number α]

theorem Context.Agrees.step {declared : List String} {context next : Context α} {statement : Statement α}
    {shown : Option (List α)} (agrees : context.Agrees declared)
    (stepped : context.step statement = .ok (next, shown)) :
    next.Agrees (statement.declaredAfter declared) := by
  rcases Context.step_cases stepped with ⟨header, rfl, rfl, -⟩ | ⟨name, value, x, rfl, -, -, rfl⟩ |
    ⟨name, value, values, rfl, -, -, rfl⟩ | ⟨value, values, rfl, -, rfl, -⟩
  · exact ⟨agrees.series, agrees.apart⟩
  · exact agrees.insert_scalar name x
  · exact agrees.insert_series name values
  · exact agrees

theorem Context.Agrees.runFrom {declared : List String} {context after : Context α} {plotted plot : List α}
    {statements : List (Statement α)} (agrees : context.Agrees declared)
    (run : context.runFrom plotted statements = ⟨after, .ok plot⟩) :
    after.Agrees (Statement.declaredAfterAll declared statements) := by
  induction statements generalizing context plotted declared with
  | nil =>
    cases run
    exact agrees
  | cons statement rest ih =>
    rcases Context.runFrom_cons_eq_ok run with ⟨next, shown, stepped, further⟩
    exact ih (agrees.step stepped) further

/-- A run begun here reaches, by these statements, this context. -/
def Context.Reaches (start : Context α) (statements : List (Statement α)) (context : Context α) : Prop :=
  ∃ plotted, start.runFrom [] statements = ⟨context, .ok plotted⟩

theorem run_classified [Literal α] (limit : Limit) (source : String) {script : List (Statement α)}
    (parsed : parse limit source = .ok script) :
    ∃ trace, parseTraced limit source = .ok trace ∧ trace.map Prod.snd = script ∧
      ∀ (bars : List (Bar α)) parameters before names statement after,
        trace = before ++ (names, statement) :: after →
        ∀ context, Context.Reaches { bars, parameters } (before.map Prod.snd) context →
          (∀ name, context.hasSeries name = names.contains name) ∧
          (∀ name, ¬ (context.hasSeries name = true ∧ context.scalars.contains name = true)) ∧
          statement.Classified context.hasSeries := by
  rw [parse_eq_parseTraced] at parsed
  cases traced : parseTraced (α := α) limit source with
  | error e =>
    rw [traced] at parsed
    cases parsed
  | ok trace =>
    rw [traced] at parsed
    refine ⟨trace, rfl, Except.ok.inj parsed, ?_⟩
    intro bars parameters before names statement after same context reached
    rcases reached with ⟨plotted, run⟩
    have isTrace := parseTraced_isTrace limit source trace traced
    rw [same] at isTrace
    rcases isTrace.split with ⟨rfl, classified⟩
    have agrees := (Context.Agrees.fresh bars parameters).runFrom run
    have known : context.hasSeries = (Statement.declaredAfterAll [] (before.map Prod.snd)).contains :=
      funext agrees.series
    exact ⟨agrees.series, agrees.apart, known ▸ classified⟩

namespace Sample

theorem parse_script :
    parse (.whole 50) (Statement.printed script) = .ok (script.map (Statement.map Numeral.value)) := by
  refine parse_printed_of_levels script_isScript fun statement mem e isOf => ?_
  have allowed : (script.all fun statement => statement.expressions.all fun e =>
      (Limit.whole 50).allows (e.levels + 1)) = true := by decide
  exact List.all_eq_true.mp (List.all_eq_true.mp allowed statement mem) e isOf

end Sample

theorem run_classified_sample :
    parse (.whole 50) (Statement.printed Sample.script) = .ok (Sample.script.map (Statement.map Numeral.value)) ∧
    ∃ trace, parseTraced (.whole 50) (Statement.printed Sample.script) = .ok trace ∧
      trace.map Prod.snd = Sample.script.map (Statement.map Numeral.value) ∧
      ∀ (bars : List (Bar Float)) parameters before names statement after,
        trace = before ++ (names, statement) :: after →
        ∀ context, Context.Reaches { bars, parameters } (before.map Prod.snd) context →
          (∀ name, context.hasSeries name = names.contains name) ∧
          (∀ name, ¬ (context.hasSeries name = true ∧ context.scalars.contains name = true)) ∧
          statement.Classified context.hasSeries :=
  ⟨Sample.parse_script, run_classified (.whole 50) (Statement.printed Sample.script) Sample.parse_script⟩

end IndicatorScript
