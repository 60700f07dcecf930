import IndicatorScript.Proofs.Gives
import IndicatorScript.Run

/-!
# Steps

Everything that a statement can do to a context, how a run that succeeds goes through its first statement, and why a run
is not begun.
-/

namespace IndicatorScript

variable {α : Type}

/-! ## Names that are bound again -/

namespace Bindings

variable {β : Type}

theorem get?_erase (bindings : Bindings β) (name n : String) :
    (bindings.erase name).get? n = if n = name then none else bindings.get? n := by
  split
  · next same => rw [same, get?_erase_self]
  · next other => exact get?_erase_of_ne bindings other

theorem get?_insert (bindings : Bindings β) (name n : String) (value : β) :
    (bindings.insert name value).get? n = if n = name then some value else bindings.get? n := by
  split
  · next same => rw [same, get?_insert_self]
  · next other => exact get?_insert_of_ne bindings value other

theorem get?_of_erase {bindings : Bindings β} {name other : String} {found : β}
    (bound : (bindings.erase name).get? other = some found) : bindings.get? other = some found := by
  rw [get?_erase] at bound
  split at bound
  · cases bound
  · exact bound

theorem get?_insert_cases {bindings : Bindings β} {name other : String} {value found : β}
    (bound : (bindings.insert name value).get? other = some found) :
    other = name ∧ found = value ∨ other ≠ name ∧ bindings.get? other = some found := by
  rw [get?_insert] at bound
  split at bound
  · next same => exact .inl ⟨same, (Option.some.inj bound).symm⟩
  · next different => exact .inr ⟨different, bound⟩

end Bindings

/-! ## Steps -/

def Statement.isPlot : Statement α → Bool
  | .plot _ => true
  | _ => false

variable [Number α]

theorem Context.step_cases {context next : Context α} {statement : Statement α} {shown : Option (List α)}
    (stepped : context.step statement = .ok (next, shown)) :
    (∃ header, statement = .study header ∧ next = { context with study := header } ∧ shown = none) ∨
    (∃ name value x, statement = .scalar name value ∧ value.evalScalar context = .ok x ∧ shown = none ∧
      next = { context with
        scalars := context.scalars.insert name x
        series := context.series.erase name }) ∨
    (∃ name value values, statement = .series name value ∧ value.evalDeclared context = .ok values ∧ shown = none ∧
      next = { context with
        scalars := context.scalars.erase name
        series := context.series.insert name values }) ∨
    ∃ value values, statement = .plot value ∧ value.evalDeclared context = .ok values ∧ next = context ∧
      shown = some values := by
  cases statement with
  | study header =>
    cases stepped
    exact .inl ⟨header, rfl, rfl, rfl⟩
  | scalar name value =>
    rcases exists_of_bind_eq_ok stepped with ⟨x, evaluated, same⟩
    cases same
    exact .inr (.inl ⟨name, value, x, rfl, evaluated, rfl, rfl⟩)
  | series name value =>
    rcases exists_of_bind_eq_ok stepped with ⟨values, evaluated, same⟩
    cases same
    exact .inr (.inr (.inl ⟨name, value, values, rfl, evaluated, rfl, rfl⟩))
  | plot value =>
    rcases exists_of_bind_eq_ok stepped with ⟨values, evaluated, same⟩
    cases same
    exact .inr (.inr (.inr ⟨value, values, rfl, evaluated, rfl, rfl⟩))

theorem Context.bars_step {context next : Context α} {statement : Statement α} {shown : Option (List α)}
    (stepped : context.step statement = .ok (next, shown)) : next.bars = context.bars := by
  rcases step_cases stepped with ⟨_, -, rfl, -⟩ | ⟨_, _, _, -, -, -, rfl⟩ | ⟨_, _, _, -, -, -, rfl⟩ |
    ⟨_, _, -, -, rfl, -⟩
  all_goals rfl

theorem Context.isSome_step {context next : Context α} {statement : Statement α} {shown : Option (List α)}
    (stepped : context.step statement = .ok (next, shown)) : shown.isSome = statement.isPlot := by
  rcases step_cases stepped with ⟨_, rfl, -, rfl⟩ | ⟨_, _, _, rfl, -, rfl, -⟩ | ⟨_, _, _, rfl, -, rfl, -⟩ |
    ⟨_, _, rfl, -, -, rfl⟩
  all_goals rfl

theorem Context.runFrom_cons_eq_ok {context after : Context α} {plotted plot : List α} {statement : Statement α}
    {rest : List (Statement α)} (run : context.runFrom plotted (statement :: rest) = ⟨after, .ok plot⟩) :
    ∃ next shown, context.step statement = .ok (next, shown) ∧
      next.runFrom (shown.getD plotted) rest = ⟨after, .ok plot⟩ := by
  simp only [runFrom] at run
  cases stepped : context.step statement with
  | error e =>
    rw [stepped] at run
    cases run
  | ok result =>
    rw [stepped] at run
    exact ⟨result.1, result.2, rfl, run⟩

/-- To relate the ends of a run that succeeds, relate them by its first statement to the ends of the rest. -/
theorem Context.runFrom_induction {motive : Context α → List (Statement α) → Context α → Prop}
    (nil : ∀ context, motive context [] context)
    (cons : ∀ {context next after : Context α} {statement : Statement α} {rest : List (Statement α)}
      {shown : Option (List α)}, context.step statement = .ok (next, shown) → motive next rest after →
      motive context (statement :: rest) after)
    {context after : Context α} {plotted plot : List α} {statements : List (Statement α)}
    (run : context.runFrom plotted statements = ⟨after, .ok plot⟩) : motive context statements after := by
  induction statements generalizing context plotted with
  | nil =>
    cases run
    exact nil after
  | cons statement rest ih =>
    rcases runFrom_cons_eq_ok run with ⟨next, shown, stepped, further⟩
    exact cons stepped (ih further)

omit [Number α] in
theorem Limit.violation_cases (limit : Limit) (err : EvalError α) :
    limit.violation err = err ∨
      ∃ typeName, limit = .incomparable typeName ∧ limit.violation err = .incomparableLimit typeName := by
  cases limit with
  | incomparable typeName => exact .inr ⟨typeName, rfl, rfl⟩
  | _ => exact .inl rfl

omit [Number α] in
theorem Limits.exceeded?_cases {limits : Limits} {statements bars : Nat} {err : EvalError α}
    (exceeded : limits.exceeded? statements bars = some err) :
    err = limits.statements.violation (.tooManyStatements statements limits.statements) ∨
      err = limits.bars.violation (.tooManyBars bars limits.bars) := by
  unfold exceeded? at exceeded
  split at exceeded
  · exact .inl (Option.some.inj exceeded).symm
  split at exceeded
  · exact .inr (Option.some.inj exceeded).symm
  · cases exceeded

end IndicatorScript
