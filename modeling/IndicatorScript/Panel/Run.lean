import IndicatorScript.Engine
import IndicatorScript.Panel.Eval

/-!
# Running scripts over tables

A script is run over whatever columns a table has of the prices, and what it plots last may have several columns. Over
bars with one column of each price nothing differs from executing the script over them.
-/

namespace IndicatorScript

variable {α : Type}

namespace Panel

def Context.declare (context : Context α) (name : String) : Series α → Context α
  | .single values => { context with
      scalars := context.scalars.erase name
      series := context.series.insert name values
      tables := context.tables.erase name }
  | .several table => { context with
      scalars := context.scalars.erase name
      series := context.series.erase name
      tables := context.tables.insert name table }

variable [Number α]

def Context.step (context : Context α) : Statement α → Except (EvalError α) (Context α × Option (Series α))
  | .study header => .ok ({ context with study := header }, none)
  | .scalar name value => do
      let value ← evalScalar context value
      .ok ({ context with
        scalars := context.scalars.insert name value
        series := context.series.erase name
        tables := context.tables.erase name }, none)
  | .series name value => do
      let values ← evalDeclared context value
      .ok (context.declare name values, none)
  | .plot value => do
      let values ← evalDeclared context value
      .ok (context, some values)

structure Run (α : Type) where
  context : Context α
  plotted : Except (EvalError α) (Series α)

def Context.runFrom (context : Context α) (plotted : Series α) : List (Statement α) → Run α
  | [] => ⟨context, .ok plotted⟩
  | statement :: rest =>
      match context.step statement with
      | .error e => ⟨context, .error e⟩
      | .ok (next, plot) => next.runFrom (plot.getD plotted) rest

def Context.run (limits : Limits) (context : Context α) (statements : List (Statement α)) : Run α :=
  match limits.exceeded? statements.length context.bars.length with
  | some e => ⟨context, .error e⟩
  | none => context.runFrom (.single []) statements

end Panel

variable [Number α]

def Script.perform (script : Script α) (limits : Limits) (market : Market α) (parameters : Bindings (Value α)) :
    Except (Interruption α) (Execution α) :=
  let run := Panel.Context.run limits { bars := market.bars, further := market.further, parameters } script.statements
  let study := run.context.study
  match run.plotted with
  | .ok plot => .ok { series := plot.front, width := plot.width, failure := none, study }
  | .error e =>
      if e.fault?.isSome then .ok { series := [], failure := some (.notEvaluated e), study }
      else .error (.badInput e)

namespace Interpreter

def failureGuard? (interpreter : Interpreter α) : Failure α → Option Guard
  | .notCompiled _ => none
  | .notEvaluated e => e.shownInteger?.bind interpreter.printingGuard?

/-- A result, unless its failure cannot be reported. -/
def reported (interpreter : Interpreter α) (execution : Execution α) : Except (Interruption α) (Execution α) :=
  match execution.failure.bind interpreter.failureGuard? with
  | some guard => .error (.stopped guard)
  | none => .ok execution

variable [Literal α]

def execute (interpreter : Interpreter α) (script : Script α) (limits : Limits) (input : BarInput α)
    (parameters : Bindings (Value α)) : Except (Interruption α) (Execution α) := do
  let market ← input.toMarket.mapError .badFrame
  if interpreter.exhausts limits script.statements market parameters then throw (.stopped .stackExhausted)
  let execution ← script.perform limits market parameters
  interpreter.reported execution

def executeSource (interpreter : Interpreter α) (limits : Limits) (source : String) (input : BarInput α)
    (parameters : Bindings (Value α)) : Except (Interruption α) (Execution α) :=
  match interpreter.compilingGuard? limits source with
  | some guard => .error (.stopped guard)
  | none =>
      match compile limits source with
      | .ok script => interpreter.execute script limits input parameters
      | .error e => .ok { series := [], failure := some (.notCompiled e) }

def runSource (interpreter : Interpreter α) (limits : Limits) (source : String) (input : BarInput α)
    (parameters : Bindings (Value α)) : Except (Interruption α) (Except (Failure α) (List α)) :=
  (interpreter.executeSource limits source input parameters).map Execution.series?

end Interpreter

end IndicatorScript
