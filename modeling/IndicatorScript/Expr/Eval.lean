import IndicatorScript.Expr.Kind
import IndicatorScript.Expr.Operand

/-!
# Evaluating expressions

`evalScalar` yields the one value of an expression, `evalSeries` its value at each bar. Both are strict: operands and
arguments are evaluated from left to right, whether or not the result depends on them. Where a series is wanted, a
scalar is repeated at every bar.
-/

namespace IndicatorScript

namespace Expr

variable {α : Type} [Number α] (context : Context α)

/-- A parameter of the caller, or else a default that is a value. -/
def input (title : String) (default : Value α) : Except (EvalError α) (Value α) :=
  match context.parameters.get? title with
  | some value => .ok value
  | none =>
      match default with
      | .none => .error (.undefinedVariable title)
      | value => .ok value

def inputTitle (function : String) (value : Value α) : Except (EvalError α) String :=
  match value with
  | .text title => .ok title
  | value => .error (.notText function value)

def positionIn (series : String) (values : List α) (index : α) : Except (EvalError α) α :=
  match Number.toInt? index with
  | none => .error (.fractionalIndex index)
  | some i =>
      if i < 0 then .error (.outOfBounds i values.length series)
      else
        match values[i.toNat]? with
        | some x => .ok x
        | none => .error (.outOfBounds i values.length series)

def evalScalar : Expr α → Except (EvalError α) (Value α)
  | .number x => .ok (.number x)
  | .text s => .ok (.text s)
  | .boolean b => .ok (.boolean b)
  | .name n =>
      match context.scalar? n with
      | some value => .ok value
      | none => .error (.undefinedVariable n)
  | .call function arguments =>
      match Builtin.ofName? function with
      | none => .error (.undefinedFunction function)
      | some builtin =>
          if builtin.signature.produces = .series then .error (.seriesAsScalar function)
          else
            match builtin, arguments with
            | .magnitude, [x] => do
                let x ← (← evalScalar x).toNumber
                .ok (.number (Number.abs x))
            | .choice which, [x, y] => do
                let x ← (← evalScalar x).toNumber
                let y ← (← evalScalar y).toNumber
                .ok (.number (which.apply x y))
            | .input, [title] => do
                let title ← inputTitle function (← evalScalar title)
                input context title .none
            | .input, [title, default] => do
                let title ← inputTitle function (← evalScalar title)
                let default ← evalScalar default
                input context title default
            | builtin, arguments => .error (.wrongCount function builtin.signature arguments.length)
  | .binary left op right => do
      let left ← evalScalar left
      let right ← evalScalar right
      op.applyScalar left right
  | .index series position =>
      match context.series.get? series with
      | none => .error (.undefinedSeries series)
      | some values => do
          let index ← (← evalScalar position).toNumber
          (positionIn series values index).map .number

def evalConstant (e : Expr α) : Except (EvalError α) (List α) := do
  let x ← (← e.evalScalar context).toNumber
  .ok (broadcast context.bars.length x)

def operandOf (e : Expr α) (series : Unit → Except (EvalError α) (List α)) : Except (EvalError α) (Operand α) :=
  if e.isSeries context.hasSeries then do
    let values ← series ()
    .ok (.series values)
  else do
    let x ← (← e.evalScalar context).toNumber
    .ok (.scalar x)

def evalSeries : Expr α → Except (EvalError α) (List α)
  | .name n =>
      match context.series.get? n with
      | some values => .ok values
      | none =>
          match context.scalar? n with
          | some value => do
              let x ← value.toNumber
              .ok (broadcast context.bars.length x)
          | none => .error (.undefinedSeries n)
  | .call function arguments =>
      match Builtin.ofName? function with
      | none => .error (.undefinedFunction function)
      | some builtin =>
          match builtin, arguments with
          | .price column, [] => .ok (context.bars.map (·.price column))
          | .composite average, [] => .ok (context.bars.map (·.composite average))
          | .windowed indicator, [x, n] => do
              let values ← evalSeries x
              let length ← (← n.evalScalar context).toLength
              .ok (indicator.apply length values)
          | .convergence part, [x, f, s] => do
              let values ← evalSeries x
              let fast ← (← f.evalScalar context).toLength
              let slow ← (← s.evalScalar context).toLength
              .ok (part.apply fast slow Indicator.signalLength values)
          | .band line, [x, n, k] => do
              let values ← evalSeries x
              let length ← (← n.evalScalar context).toLength
              let multiple ← (← k.evalScalar context).toNumber
              .ok (line.apply length multiple values)
          | .magnitude, [x] => do
              let x ← operandOf context x fun _ => evalSeries x
              .ok (x.map context.bars.length Number.abs)
          | .choice which, [x, y] => do
              let x ← operandOf context x fun _ => evalSeries x
              let y ← operandOf context y fun _ => evalSeries y
              x.checkAligned y
              .ok (x.zipWith context.bars.length which.apply y)
          | .input, arguments => evalConstant context (.call function arguments)
          | builtin, arguments => .error (.wrongCount function builtin.signature arguments.length)
  | .binary left op right => do
      let left ← operandOf context left fun _ => evalSeries left
      let right ← operandOf context right fun _ => evalSeries right
      op.applySeries context.bars.length left right
  | e => evalConstant context e

def evalDeclared (e : Expr α) : Except (EvalError α) (List α) :=
  if e.isSeries context.hasSeries then e.evalSeries context else e.evalConstant context

end Expr

end IndicatorScript
