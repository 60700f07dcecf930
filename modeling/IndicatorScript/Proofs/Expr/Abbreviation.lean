import IndicatorScript.Expr.Eval
import IndicatorScript.Number.Double
import IndicatorScript.Proofs.Gives
import IndicatorScript.Proofs.Indicator.Length

/-!
# Calls that abbreviate

The convergence of two averages and the Bollinger bands can be written in a script with averages and deviations alone
(`Abbreviates`). A call and what is written for it evaluate the same arguments in the same order, so they come to the
same series or fail with the same error. Only the middle band does not depend on the multiple that its call evaluates.
-/

namespace IndicatorScript

variable {α : Type} [Number α]

theorem Arithmetic.applySeries_series {op : Arithmetic} (other : op ≠ .divide) (bars : Nat) {xs ys : List α}
    (same : xs.length = ys.length) :
    (Operator.arithmetic op).applySeries bars (.series xs) (.series ys) = .ok (List.zipWith op.apply xs ys) := by
  rw [Operator.applySeries, Operand.checkAligned, if_pos same]
  exact if_neg fun divides => other divides.1

theorem Arithmetic.applySeries_scalar (op : Arithmetic) (other : op ≠ .divide) (bars : Nat) (xs : List α) (y : α) :
    (Operator.arithmetic op).applySeries bars (.series xs) (.scalar y) = .ok (xs.map (op.apply · y)) :=
  if_neg fun divides => other divides.1

namespace Expr

section Argument

variable (context : Context α)

def evalLength (e : Expr α) : Except (EvalError α) Nat := do (← e.evalScalar context).toLength

def evalNumber (e : Expr α) : Except (EvalError α) α := do (← e.evalScalar context).toNumber

end Argument

variable {context : Context α} {function : String}

theorem evalLength_number {x : α} {i : Int} (isInt : Number.toInt? x = some i) (positive : 1 ≤ i) :
    (number x).evalLength context = .ok i.toNat := by
  have isLength : (Value.number x).toLength = .ok i.toNat := Value.toLength_of_toInt? rfl isInt positive
  simp only [evalLength, evalScalar]
  exact isLength

theorem operandOf_of_isSeries {e : Expr α} (isSeries : e.isSeries context.hasSeries = true)
    (series : Unit → Except (EvalError α) (List α)) :
    operandOf context e series = (do
      let values ← series ()
      .ok (.series values)) := by
  rw [operandOf, if_pos isSeries]

theorem operandOf_of_isScalar {e : Expr α} (isScalar : e.isSeries context.hasSeries = false)
    (series : Unit → Except (EvalError α) (List α)) :
    operandOf context e series = (do
      let x ← e.evalNumber context
      .ok (.scalar x)) := by
  rw [operandOf, isScalar, if_neg Bool.false_ne_true, evalNumber, bind_assoc]

theorem evalSeries_binary (left : Expr α) (op : Operator) (right : Expr α) :
    (binary left op right).evalSeries context = (do
      let x ← operandOf context left fun _ => left.evalSeries context
      let y ← operandOf context right fun _ => right.evalSeries context
      op.applySeries context.bars.length x y) := by
  rw [evalSeries]

/-! ## Calls of indicators -/

section Call

theorem evalSeries_windowed {indicator : Windowed} (named : Builtin.ofName? function = some (.windowed indicator))
    (x n : Expr α) :
    (call function [x, n]).evalSeries context = (do
      let values ← x.evalSeries context
      let length ← n.evalLength context
      .ok (indicator.apply length values)) := by
  simp only [evalSeries, named, evalLength, bind_assoc]

theorem evalSeries_convergence {part : Convergence} (named : Builtin.ofName? function = some (.convergence part))
    (x f s : Expr α) :
    (call function [x, f, s]).evalSeries context = (do
      let values ← x.evalSeries context
      let fast ← f.evalLength context
      let slow ← s.evalLength context
      .ok (part.apply fast slow Indicator.signalLength values)) := by
  simp only [evalSeries, named, evalLength, bind_assoc]

theorem evalSeries_band {line : Band} (named : Builtin.ofName? function = some (.band line)) (x n k : Expr α) :
    (call function [x, n, k]).evalSeries context = (do
      let values ← x.evalSeries context
      let length ← n.evalLength context
      let multiple ← k.evalNumber context
      .ok (line.apply length multiple values)) := by
  simp only [evalSeries, named, evalLength, evalNumber, bind_assoc]

omit [Number α] in
theorem isSeries_of_produces {builtin : Builtin} (named : Builtin.ofName? function = some builtin)
    (produces : builtin.signature.produces = .series) (declared : String → Bool) (arguments : List (Expr α)) :
    (call function arguments).isSeries declared = true := by
  simp only [isSeries, named, produces]

end Call

/-! ## What is written for them -/

section Written

variable (x f s n k : Expr α)

theorem ema_named : Builtin.ofName? "ema" = some (.windowed .ema) := by decide

theorem sma_named : Builtin.ofName? "sma" = some (.windowed .sma) := by decide

theorem stdev_named : Builtin.ofName? "stdev" = some (.windowed .stdev) := by decide

theorem evalSeries_line (named : Builtin.ofName? function = some (.convergence .line)) :
    (binary (call "ema" [x, f]) (.arithmetic .subtract) (call "ema" [x, s])).evalSeries context =
      (call function [x, f, s]).evalSeries context := by
  rw [evalSeries_binary, operandOf_of_isSeries (isSeries_of_produces ema_named rfl _ _),
    operandOf_of_isSeries (isSeries_of_produces ema_named rfl _ _), evalSeries_windowed ema_named,
    evalSeries_windowed ema_named, evalSeries_convergence named]
  cases x.evalSeries context with
  | error => rfl
  | ok values =>
  cases f.evalLength context with
  | error => rfl
  | ok fast =>
  cases s.evalLength context with
  | error => rfl
  | ok slow =>
  exact Arithmetic.applySeries_series (by decide) _ (by simp)

theorem evalSeries_signal (named : Builtin.ofName? function = some (.convergence .signal)) {line : String}
    (lineNamed : Builtin.ofName? line = some (.convergence .line)) {nine : α}
    (isNine : Number.toInt? nine = some Indicator.signalLength) :
    (call "ema" [call line [x, f, s], number nine]).evalSeries context =
      (call function [x, f, s]).evalSeries context := by
  rw [evalSeries_windowed ema_named, evalSeries_convergence lineNamed, evalSeries_convergence named,
    evalLength_number isNine (by decide)]
  cases x.evalSeries context with
  | error => rfl
  | ok values =>
  cases f.evalLength context with
  | error => rfl
  | ok fast =>
  cases s.evalLength context with
  | error => rfl
  | ok slow => rfl

theorem evalSeries_histogram (named : Builtin.ofName? function = some (.convergence .histogram)) {line signal : String}
    (lineNamed : Builtin.ofName? line = some (.convergence .line))
    (signalNamed : Builtin.ofName? signal = some (.convergence .signal)) :
    (binary (call line [x, f, s]) (.arithmetic .subtract) (call signal [x, f, s])).evalSeries context =
      (call function [x, f, s]).evalSeries context := by
  rw [evalSeries_binary, operandOf_of_isSeries (isSeries_of_produces lineNamed rfl _ _),
    operandOf_of_isSeries (isSeries_of_produces signalNamed rfl _ _), evalSeries_convergence lineNamed,
    evalSeries_convergence signalNamed, evalSeries_convergence named]
  cases x.evalSeries context with
  | error => rfl
  | ok values =>
  cases f.evalLength context with
  | error => rfl
  | ok fast =>
  cases s.evalLength context with
  | error => rfl
  | ok slow => exact Arithmetic.applySeries_series (by decide) _ (by simp)

theorem evalSeries_width (isScalar : k.isSeries context.hasSeries = false) :
    (binary (call "stdev" [x, n]) (.arithmetic .multiply) k).evalSeries context = (do
      let values ← x.evalSeries context
      let length ← n.evalLength context
      let multiple ← k.evalNumber context
      .ok (Indicator.bandWidth length multiple values)) := by
  rw [evalSeries_binary, operandOf_of_isSeries (isSeries_of_produces stdev_named rfl _ _),
    operandOf_of_isScalar isScalar, evalSeries_windowed stdev_named]
  cases x.evalSeries context with
  | error => rfl
  | ok values =>
  cases n.evalLength context with
  | error => rfl
  | ok length =>
  cases k.evalNumber context with
  | error => rfl
  | ok multiple => exact Arithmetic.multiply.applySeries_scalar (by decide) _ _ multiple

theorem evalSeries_outer (line : Band) (op : Arithmetic) (other : op ≠ .divide)
    (outer : ∀ length (multiple : α) values, line.apply length multiple values =
      List.zipWith op.apply (Indicator.sma length values) (Indicator.bandWidth length multiple values))
    (named : Builtin.ofName? function = some (.band line)) (isScalar : k.isSeries context.hasSeries = false) :
    (binary (call "sma" [x, n]) (.arithmetic op)
      (binary (call "stdev" [x, n]) (.arithmetic .multiply) k)).evalSeries context =
      (call function [x, n, k]).evalSeries context := by
  have isSeries : (binary (call "stdev" [x, n]) (.arithmetic .multiply) k).isSeries context.hasSeries = true := by
    rw [Expr.isSeries, isSeries_of_produces stdev_named rfl, Bool.true_or]
  rw [evalSeries_binary, operandOf_of_isSeries (isSeries_of_produces sma_named rfl _ _),
    operandOf_of_isSeries isSeries, evalSeries_windowed sma_named, evalSeries_width x n k isScalar,
    evalSeries_band named]
  cases x.evalSeries context with
  | error => rfl
  | ok values =>
  cases n.evalLength context with
  | error => rfl
  | ok length =>
  cases k.evalNumber context with
  | error => rfl
  | ok multiple =>
  have same : (Indicator.sma length values).length = (Indicator.bandWidth length multiple values).length := by
    simp [Indicator.sma, Indicator.bandWidth, Indicator.stdev]
  exact (Arithmetic.applySeries_series other _ same).trans (congrArg Except.ok (outer length multiple values).symm)

theorem evalSeries_middle (named : Builtin.ofName? function = some (.band .middle)) :
    (call function [x, n, k]).evalSeries context = (do
      let values ← (call "sma" [x, n]).evalSeries context
      let _ ← k.evalNumber context
      .ok values) := by
  simp only [evalSeries_band named, evalSeries_windowed sma_named, bind_assoc]
  rfl

end Written

/-- What can be written in a script instead of a call. -/
inductive Abbreviates (context : Context α) : Expr α → Expr α → Prop where
  | line {function : String} (named : function = "macd" ∨ function = "macd_line") (x f s : Expr α) :
      Abbreviates context (call function [x, f, s])
        (binary (call "ema" [x, f]) (.arithmetic .subtract) (call "ema" [x, s]))
  | signal {nine : α} (isNine : Number.toInt? nine = some 9) (x f s : Expr α) :
      Abbreviates context (call "macd_signal" [x, f, s]) (call "ema" [call "macd" [x, f, s], number nine])
  | histogram (x f s : Expr α) :
      Abbreviates context (call "macd_histogram" [x, f, s])
        (binary (call "macd" [x, f, s]) (.arithmetic .subtract) (call "macd_signal" [x, f, s]))
  | middle (x n k : Expr α) : Abbreviates context (call "bb_middle" [x, n, k]) (call "sma" [x, n])
  | upper (x n : Expr α) {k : Expr α} (isScalar : k.isSeries context.hasSeries = false) :
      Abbreviates context (call "bb_upper" [x, n, k])
        (binary (call "sma" [x, n]) (.arithmetic .add) (binary (call "stdev" [x, n]) (.arithmetic .multiply) k))
  | lower (x n : Expr α) {k : Expr α} (isScalar : k.isSeries context.hasSeries = false) :
      Abbreviates context (call "bb_lower" [x, n, k])
        (binary (call "sma" [x, n]) (.arithmetic .subtract) (binary (call "stdev" [x, n]) (.arithmetic .multiply) k))

namespace Abbreviates

variable {abbreviation expression : Expr α}

theorem isSeries (abbreviates : Abbreviates context abbreviation expression) :
    abbreviation.isSeries context.hasSeries = true ∧ expression.isSeries context.hasSeries = true := by
  cases abbreviates with
  | line named => rcases named with rfl | rfl <;> exact ⟨rfl, rfl⟩
  | signal | histogram | middle | upper | lower => exact ⟨rfl, rfl⟩

/-- The two evaluate to the same, but for a multiple that only the call evaluates. -/
theorem evalSeries_cases (abbreviates : Abbreviates context abbreviation expression) :
    expression.evalSeries context = abbreviation.evalSeries context ∨
      ∃ k : Expr α, abbreviation.evalSeries context = (do
        let values ← expression.evalSeries context
        let _ ← k.evalNumber context
        .ok values) := by
  cases abbreviates with
  | line named x f s => rcases named with rfl | rfl <;> exact .inl (evalSeries_line x f s (by decide))
  | signal isNine x f s => exact .inl (evalSeries_signal x f s (by decide) (by decide) isNine)
  | histogram x f s => exact .inl (evalSeries_histogram x f s (by decide) (by decide) (by decide))
  | middle x n k => exact .inr ⟨k, evalSeries_middle x n k (by decide)⟩
  | upper x n isScalar =>
    exact .inl (evalSeries_outer x n _ .upper .add (by decide) (fun _ _ _ => rfl) (by decide) isScalar)
  | lower x n isScalar =>
    exact .inl (evalSeries_outer x n _ .lower .subtract (by decide) (fun _ _ _ => rfl) (by decide) isScalar)

/-- Where the call comes to a series, what is written for it comes to the same series, and it fails only as the call
does. -/
theorem same_series (abbreviates : Abbreviates context abbreviation expression) :
    (abbreviation.isSeries context.hasSeries = true ∧ expression.isSeries context.hasSeries = true) ∧
      (∀ values, abbreviation.evalSeries context = .ok values → expression.evalSeries context = .ok values) ∧
      ∀ err, expression.evalSeries context = .error err → abbreviation.evalSeries context = .error err := by
  refine ⟨abbreviates.isSeries, ?_⟩
  rcases abbreviates.evalSeries_cases with same | ⟨k, further⟩
  · exact ⟨fun values evaluates => same.trans evaluates, fun err fails => same.symm.trans fails⟩
  · refine ⟨fun values evaluates => ?_, fun err fails => ?_⟩
    · rw [further] at evaluates
      rcases exists_of_bind_eq_ok evaluates with ⟨_, given, evaluates⟩
      rcases exists_of_bind_eq_ok evaluates with ⟨_, -, same⟩
      exact given.trans same
    · rw [further, fails]
      rfl

theorem same_series_sample :
    let bar : Bar Float := ⟨1.0, 4.0, 0.5, 2.0, 100.0⟩
    let context : Context Float := { bars := [bar, bar] }
    let call : Expr Float := .call "macd_signal" [.number 7.0, .number 1.0, .number 3.0]
    let written : Expr Float := .call "ema" [.call "macd" [.number 7.0, .number 1.0, .number 3.0], .number 9.0]
    Abbreviates context call written ∧ call.evalSeries context = .ok [0.0, 0.0] ∧
      written.evalSeries context = .ok [0.0, 0.0] := by
  intro bar context call written
  have abbreviates : Abbreviates context call written := .signal (by decide +kernel) _ _ _
  have evaluates : call.evalSeries context = .ok [0.0, 0.0] := by
    rw [evalSeries_convergence (by decide : _ = some (Builtin.convergence .signal)),
      evalLength_number (i := 1) (by decide +kernel) (by decide),
      evalLength_number (i := 3) (by decide +kernel) (by decide)]
    rfl
  exact ⟨abbreviates, evaluates, abbreviates.same_series.2.1 _ evaluates⟩

end Abbreviates

end Expr

end IndicatorScript
