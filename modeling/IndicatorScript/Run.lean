import IndicatorScript.Expr.Eval

/-!
# Running statements

Statements run once, in order, each changing the context that the next one meets. A statement that fails changes
nothing and ends the run. The last series plotted is the result.
-/

namespace IndicatorScript

variable {α : Type} [Number α]

def Context.step (context : Context α) : Statement α → Except (EvalError α) (Context α × Option (List α))
  | .study header => .ok ({ context with study := header }, none)
  | .scalar name value => do
      let value ← value.evalScalar context
      .ok ({ context with
        scalars := context.scalars.insert name value
        series := context.series.erase name }, none)
  | .series name value => do
      let values ← value.evalDeclared context
      .ok ({ context with
        scalars := context.scalars.erase name
        series := context.series.insert name values }, none)
  | .plot value => do
      let values ← value.evalDeclared context
      .ok (context, some values)

/-- What a run leaves: the context after its last step, and the series plotted last, or why it ended early. -/
structure Run (α : Type) where
  context : Context α
  plotted : Except (EvalError α) (List α)

def Context.runFrom (context : Context α) (plotted : List α) : List (Statement α) → Run α
  | [] => ⟨context, .ok plotted⟩
  | statement :: rest =>
      match context.step statement with
      | .error e => ⟨context, .error e⟩
      | .ok (next, plot) => next.runFrom (plot.getD plotted) rest

theorem Context.runFrom_append_of_ok {context next : Context α} {plotted plot : List α}
    {first : List (Statement α)} (h : context.runFrom plotted first = ⟨next, .ok plot⟩)
    (second : List (Statement α)) :
    context.runFrom plotted (first ++ second) = next.runFrom plot second := by
  induction first generalizing context plotted with
  | nil => cases h; rfl
  | cons statement rest ih =>
    rw [List.cons_append]
    simp only [Context.runFrom] at h ⊢
    split at h
    · cases h
    · exact ih h

theorem Context.runFrom_append_of_error {context next : Context α} {plotted : List α} {e : EvalError α}
    {first : List (Statement α)} (h : context.runFrom plotted first = ⟨next, .error e⟩)
    (second : List (Statement α)) :
    context.runFrom plotted (first ++ second) = ⟨next, .error e⟩ := by
  induction first generalizing context plotted with
  | nil => cases h
  | cons statement rest ih =>
    rw [List.cons_append]
    simp only [Context.runFrom] at h ⊢
    split at h
    · exact h
    · exact ih h

structure Limits where
  statements : Limit := .whole 1000
  bars : Limit := .whole 100000
  nesting : Limit := .whole 50
  deriving DecidableEq

def Limit.violation (limit : Limit) (e : EvalError α) : EvalError α :=
  match limit with
  | .incomparable typeName => .incomparableLimit typeName
  | _ => e

def Limits.exceeded? (limits : Limits) (statements bars : Nat) : Option (EvalError α) :=
  if !limits.statements.allows statements then
    some (limits.statements.violation (.tooManyStatements statements limits.statements))
  else if !limits.bars.allows bars then some (limits.bars.violation (.tooManyBars bars limits.bars))
  else none

def Context.run (limits : Limits) (context : Context α) (statements : List (Statement α)) : Run α :=
  match limits.exceeded? statements.length context.bars.length with
  | some e => ⟨context, .error e⟩
  | none => context.runFrom [] statements

end IndicatorScript
