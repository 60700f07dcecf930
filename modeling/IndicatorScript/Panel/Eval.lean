import IndicatorScript.Expr.Eval
import IndicatorScript.Panel.Series

/-!
# Evaluation over several columns

Expressions are evaluated as over bars with one column of each price, except that a series may have several columns.
-/

namespace IndicatorScript.Panel

/-- A context over bars of which a price may have further columns. What is declared as a series with several columns is
kept as a table, and is bound to nothing else. -/
structure Context (α : Type) extends IndicatorScript.Context α where
  further : Price → List (List α)
  tables : Bindings (Table α) := {}

variable {α : Type}

def Context.hasSeries (context : Context α) (name : String) : Bool :=
  context.toContext.hasSeries name || context.tables.contains name

def Context.price (context : Context α) (column : Price) : Series α :=
  .ofColumns column (context.bars.map (·.price column) :: context.further column)

variable [Number α] (context : Context α)

/-- The value of a series at a position. In several columns there is none. -/
def positionIn (series : String) (values : Series α) (index : α) : Except (EvalError α) α := do
  let x ← Expr.positionIn series values.front index
  match values with
  | .single _ => .ok x
  | .several _ => .error (.columns .severalNumbers)

def evalScalar : Expr α → Except (EvalError α) (Value α)
  | .number x => .ok (.number x)
  | .text s => .ok (.text s)
  | .boolean b => .ok (.boolean b)
  | .name n =>
      match context.scalar? n with
      | some value => .ok value
      | none => .error (.undefinedVariable n)
  | .call function arguments =>
      match Builtin.ofName? function with
      | none => .error (.undefinedFunction function)
      | some builtin =>
          if builtin.signature.produces = .series then .error (.seriesAsScalar function)
          else
            match builtin, arguments with
            | .magnitude, [x] => do
                let x ← (← evalScalar x).toNumber
                .ok (.number (Number.abs x))
            | .choice which, [x, y] => do
                let x ← (← evalScalar x).toNumber
                let y ← (← evalScalar y).toNumber
                .ok (.number (which.apply x y))
            | .input, [title] => do
                let title ← Expr.inputTitle function (← evalScalar title)
                Expr.input context.toContext title .none
            | .input, [title, default] => do
                let title ← Expr.inputTitle function (← evalScalar title)
                let default ← evalScalar default
                Expr.input context.toContext title default
            | builtin, arguments => .error (.wrongCount function builtin.signature arguments.length)
  | .binary left op right => do
      let left ← evalScalar left
      let right ← evalScalar right
      op.applyScalar left right
  | .index series position =>
      match ((context.tables.get? series).map .several).or ((context.series.get? series).map .single) with
      | none => .error (.undefinedSeries series)
      | some values => do
          let index ← (← evalScalar position).toNumber
          (positionIn series values index).map .number

def evalConstant (e : Expr α) : Except (EvalError α) (Series α) := do
  let x ← (← evalScalar context e).toNumber
  .ok (.single (broadcast context.bars.length x))

def operandOf (e : Expr α) (series : Unit → Except (EvalError α) (Series α)) : Except (EvalError α) (Operand α) :=
  if e.isSeries context.hasSeries then do
    let values ← series ()
    .ok (.series values)
  else do
    let x ← (← evalScalar context e).toNumber
    .ok (.scalar x)

def evalSeries : Expr α → Except (EvalError α) (Series α)
  | .name n =>
      match ((context.tables.get? n).map .several).or ((context.series.get? n).map .single) with
      | some values => .ok values
      | none =>
          match context.scalar? n with
          | some value => do
              let x ← value.toNumber
              .ok (.single (broadcast context.bars.length x))
          | none => .error (.undefinedSeries n)
  | .call function arguments =>
      match Builtin.ofName? function with
      | none => .error (.undefinedFunction function)
      | some builtin =>
          match builtin, arguments with
          | .price column, [] => .ok (context.price column)
          | .composite average, [] => composite context.bars context.further average
          | .windowed indicator, [x, n] => do
              let values ← evalSeries x
              let length ← (← evalScalar context n).toLength
              values.windowed indicator length
          | .convergence part, [x, f, s] => do
              let values ← evalSeries x
              let fast ← (← evalScalar context f).toLength
              let slow ← (← evalScalar context s).toLength
              .ok (values.mapColumns (part.apply fast slow Indicator.signalLength))
          | .band line, [x, n, k] => do
              let values ← evalSeries x
              let length ← (← evalScalar context n).toLength
              let multiple ← (← evalScalar context k).toNumber
              .ok (values.mapColumns (line.apply length multiple))
          | .magnitude, [x] => do
              let x ← operandOf context x fun _ => evalSeries x
              x.abs context.bars.length
          | .choice which, [x, y] => do
              let x ← operandOf context x fun _ => evalSeries x
              let y ← operandOf context y fun _ => evalSeries y
              Operand.choose context.bars.length which x y
          | .input, arguments => evalConstant context (.call function arguments)
          | builtin, arguments => .error (.wrongCount function builtin.signature arguments.length)
  | .binary left op right => do
      let left ← operandOf context left fun _ => evalSeries left
      let right ← operandOf context right fun _ => evalSeries right
      applySeries context.bars.length op left right
  | e => evalConstant context e

def evalDeclared (e : Expr α) : Except (EvalError α) (Series α) :=
  if e.isSeries context.hasSeries then evalSeries context e else evalConstant context e

end IndicatorScript.Panel
