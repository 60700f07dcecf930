import IndicatorScript.Interpreter
import IndicatorScript.Number.Double
import IndicatorScript.Statement.Parser

/-!
# Compiling and executing scripts

A script is compiled once and may be executed many times, each time in a context of its own. Faults of a script are
part of the result of an execution. Bars that cannot be read, and what is no fault of the script, leave an execution
without a result.

Here bars have one column of each price. How a script is executed over a table with several columns of one, and what an
interpreter adds to it, is said where tables are run over; over bars like these it comes to the same.
-/

namespace IndicatorScript

structure Script (α : Type) where
  statements : List (Statement α)

inductive Failure (α : Type) where
  | notCompiled (e : SyntaxError)
  | notEvaluated (e : EvalError α)

inductive Interruption (α : Type) where
  | badFrame (e : FrameError)
  | badInput (e : EvalError α)
  | stopped (guard : Guard)

structure Execution (α : Type) where
  series : List α
  /-- How many columns were plotted. Only the first one is kept. -/
  width : Nat := 1
  failure : Option (Failure α)
  study : Study := {}

variable {α : Type}

def Script.study? (script : Script α) : Option Study :=
  (script.statements.filterMap fun
    | .study header => some header
    | _ => none).getLast?

def compile [Literal α] (limits : Limits) (source : String) : Except SyntaxError (Script α) :=
  (parse limits.nesting source).map Script.mk

def validate (limits : Limits) (source : String) : Option SyntaxError :=
  match compile (α := Float) limits source with
  | .ok _ => none
  | .error e => some e

def Execution.series? (execution : Execution α) : Except (Failure α) (List α) :=
  match execution.failure with
  | none => .ok execution.series
  | some failure => .error failure

section Execute

variable [Number α] [Literal α]

def Script.execute (script : Script α) (limits : Limits) (input : BarInput α) (parameters : Bindings (Value α)) :
    Except (Interruption α) (Execution α) :=
  match input.toBars with
  | .error e => .error (.badFrame e)
  | .ok stamped =>
      let run := Context.run limits { bars := stamped.bars, parameters } script.statements
      match run.plotted with
      | .ok series => .ok { series, failure := none, study := run.context.study }
      | .error e =>
          if e.fault?.isSome then .ok { series := [], failure := some (.notEvaluated e), study := run.context.study }
          else .error (.badInput e)

/-- Compiles and executes a source. A syntax error is part of the result. -/
def executeSource (limits : Limits) (source : String) (input : BarInput α) (parameters : Bindings (Value α)) :
    Except (Interruption α) (Execution α) :=
  match compile limits source with
  | .ok script => script.execute limits input parameters
  | .error e => .ok { series := [], failure := some (.notCompiled e) }

end Execute

end IndicatorScript
