import IndicatorScript.Proofs.Expr.Abbreviation
import IndicatorScript.Proofs.Expr.Operand
import IndicatorScript.Proofs.Run.Prefix

/-!
# Numbers that meet a stored series

A series that a caller has stored can have more or fewer values than there are bars. Arithmetic and the choice of one of
two numbers take a number to each value of the series. A test repeats the number at every bar instead, so that it
refuses a comparison and fills up a connective where the lengths differ (`Pairing.evalSeries_expr_stored`).
-/

namespace IndicatorScript

open Number

variable {α : Type}

/-! ## Tests -/

theorem zipWith_broadcast (f : α → α → α) (xs : List α) (bars : Nat) (y : α) :
    List.zipWith f xs (broadcast bars y) = (xs.map (f · y)).take bars := by
  apply List.ext_getElem
  · simp [broadcast, Nat.min_comm]
  · intro i _ _
    simp [broadcast]

def Test.isConnective : Test → Bool
  | .and | .or => true
  | _ => false

section Test

variable [Number α] {op : Test} {xs ys : List α}

theorem Test.applySeries_connective (connective : op.isConnective = true) :
    op.applySeries xs ys = .ok (List.zipWith op.applyAt xs ys ++
      List.replicate (Max.max xs.length ys.length - Min.min xs.length ys.length) nan) := by
  cases op with
  | and | or => rfl
  | _ => cases connective

theorem Test.applySeries_comparison (other : op ≠ .not) (comparison : op.isConnective = false)
    (differ : xs.length ≠ ys.length) : op.applySeries xs ys = .error .incomparableLengths := by
  cases op with
  | and | or => cases comparison
  | not => exact absurd rfl other
  | _ => exact if_neg differ

end Test

/-! ## Operands -/

namespace Expr

variable [Number α] {context : Context α} {values : List α} {e : Expr α} {c : α}

theorem operandOf_stored {n : String} (stored : context.series.get? n = some values) :
    (operandOf context (.name n) fun _ => (name n).evalSeries context) = .ok (.series values) := by
  have isSeries : (name n : Expr α).isSeries context.hasSeries = true := by
    rw [Expr.isSeries, Context.hasSeries, Bindings.contains, stored]
    rfl
  rw [operandOf_of_isSeries isSeries, evalSeries, stored]
  rfl

theorem operandOf_number (isScalar : e.isSeries context.hasSeries = false) (isNumber : e.evalNumber context = .ok c) :
    (operandOf context e fun _ => e.evalSeries context) = .ok (.scalar c) := by
  rw [operandOf_of_isScalar isScalar, isNumber]
  rfl

end Expr

/-! ## Operations on pairs -/

def Choice.name : Choice → String
  | .max => "max"
  | .min => "min"

theorem Choice.ofName?_name (which : Choice) : Builtin.ofName? which.name = some (.choice which) := by
  cases which <;> decide

/-- An operation that takes a value from each side. Division is left out, since one zero makes all of it fail, and so is
negation, which has one side. -/
inductive Pairing where
  | arithmetic (op : Arithmetic) (other : op ≠ .divide)
  | choice (which : Choice)
  | test (op : Test) (other : op ≠ .not)

namespace Pairing

def expr : Pairing → Expr α → Expr α → Expr α
  | arithmetic op _, left, right => .binary left (.arithmetic op) right
  | choice which, left, right => .call which.name [left, right]
  | test op _, left, right => .binary left (.test op) right

variable [Number α]

def apply : Pairing → α → α → α
  | arithmetic op _, x, y => op.apply x y
  | choice which, x, y => which.apply x y
  | test op _, x, y => if isNaN x || isNaN y then nan else ofBool (op.holds x y)

/-- What comes of the values that the operation has for a number and each value of a series, at this many bars. -/
def fitted (pairing : Pairing) (bars : Nat) (values : List α) : Except (EvalError α) (List α) :=
  match pairing with
  | arithmetic _ _ | choice _ => .ok values
  | test op _ =>
      if op.isConnective then
        .ok (values.take bars ++ List.replicate (Max.max values.length bars - Min.min values.length bars) nan)
      else if values.length = bars then .ok values
      else .error .incomparableLengths

theorem fitted_length (pairing : Pairing) (values : List α) : pairing.fitted values.length values = .ok values := by
  cases pairing with
  | arithmetic op other => rfl
  | choice which => rfl
  | test op other => simp [fitted]

def operate (bars : Nat) : Pairing → Operand α → Operand α → Except (EvalError α) (List α)
  | arithmetic op _, x, y => (Operator.arithmetic op).applySeries bars x y
  | choice which, x, y => do
      x.checkAligned y
      .ok (x.zipWith bars which.apply y)
  | test op _, x, y => (Operator.test op).applySeries bars x y

theorem evalSeries_expr (context : Context α) (pairing : Pairing) (left right : Expr α) :
    (pairing.expr left right).evalSeries context = (do
      let x ← Expr.operandOf context left fun _ => left.evalSeries context
      let y ← Expr.operandOf context right fun _ => right.evalSeries context
      pairing.operate context.bars.length x y) := by
  cases pairing with
  | arithmetic op other => exact Expr.evalSeries_binary left _ right
  | choice which =>
    simp only [expr, Expr.evalSeries, which.ofName?_name]
    rfl
  | test op other => exact Expr.evalSeries_binary left _ right

theorem applyAt_eq {op : Test} (other : op ≠ .not) : op.applyAt (α := α) = (test op other).apply := by
  have binary : op.isUnary = false := decide_eq_false other
  funext x y
  simp only [Test.applyAt, binary, Bool.not_false, Bool.true_and]
  rfl

theorem applySeries_test {op : Test} (other : op ≠ .not) {bars : Nat} {xs ys values : List α}
    (zipped : List.zipWith op.applyAt xs ys = values.take bars)
    (lengths : xs.length = values.length ∧ ys.length = bars ∨ xs.length = bars ∧ ys.length = values.length) :
    op.applySeries xs ys = (test op other).fitted bars values := by
  by_cases fits : values.length = bars
  · subst fits
    have same : xs.length = ys.length := by omega
    rw [op.applySeries_of_length_eq same, zipped, List.take_length, fitted_length]
  cases connective : op.isConnective with
  | true =>
    have fill : Max.max xs.length ys.length - Min.min xs.length ys.length =
        Max.max values.length bars - Min.min values.length bars := by
      omega
    rw [Test.applySeries_connective connective, zipped, fill, fitted, if_pos connective]
  | false =>
    have differ : xs.length ≠ ys.length := by omega
    rw [Test.applySeries_comparison other connective differ, fitted, connective, if_neg Bool.false_ne_true,
      if_neg fits]

theorem operate_series_scalar (pairing : Pairing) (bars : Nat) (xs : List α) (y : α) :
    pairing.operate bars (.series xs) (.scalar y) = pairing.fitted bars (xs.map (pairing.apply · y)) := by
  cases pairing with
  | arithmetic op other => exact op.applySeries_scalar other bars xs y
  | choice which => rfl
  | test op other =>
    have zipped : List.zipWith op.applyAt xs (broadcast bars y) = (xs.map ((test op other).apply · y)).take bars := by
      rw [zipWith_broadcast, applyAt_eq other]
    exact applySeries_test other zipped (.inl ⟨(List.length_map _).symm, length_broadcast bars y⟩)

theorem operate_scalar_series (pairing : Pairing) (bars : Nat) (x : α) (ys : List α) :
    pairing.operate bars (.scalar x) (.series ys) = pairing.fitted bars (ys.map (pairing.apply x ·)) := by
  cases pairing with
  | arithmetic op other => exact if_neg fun divides => other divides.1
  | choice which => rfl
  | test op other =>
    have zipped : List.zipWith op.applyAt (broadcast bars x) ys = (ys.map ((test op other).apply x ·)).take bars := by
      rw [List.zipWith_comm, zipWith_broadcast, applyAt_eq other]
    exact applySeries_test other zipped (.inr ⟨length_broadcast bars x, (List.length_map _).symm⟩)

variable {context : Context α} {name : String} {values : List α} {e : Expr α} {c : α}

theorem evalSeries_expr_stored (pairing : Pairing) (stored : context.series.get? name = some values)
    (isScalar : e.isSeries context.hasSeries = false) (isNumber : e.evalNumber context = .ok c) :
    (pairing.expr (.name name) e).evalSeries context =
        pairing.fitted context.bars.length (values.map (pairing.apply · c)) ∧
      (pairing.expr e (.name name)).evalSeries context =
        pairing.fitted context.bars.length (values.map (pairing.apply c ·)) := by
  refine ⟨?_, ?_⟩
  · rw [evalSeries_expr, Expr.operandOf_stored stored, Expr.operandOf_number isScalar isNumber, ← operate_series_scalar]
    rfl
  · rw [evalSeries_expr, Expr.operandOf_stored stored, Expr.operandOf_number isScalar isNumber, ← operate_scalar_series]
    rfl

end Pairing

namespace Sample

def stored : Context Float := { bars := bars, series := .ofList [("s", [5.0])] }

end Sample

/-- A sum and a choice have one value, a connective has one for each bar. -/
theorem evalSeries_expr_stored_sample :
    let nine : Expr Float := .number 9.0
    let s : Expr Float := .name "s"
    Sample.stored.series.get? "s" = some [5.0] ∧ nine.isSeries Sample.stored.hasSeries = false ∧
      nine.evalNumber Sample.stored = .ok 9.0 ∧
      (Expr.binary s (.arithmetic .add) nine).evalSeries Sample.stored = .ok [14.0] ∧
      (Expr.call "max" [nine, s]).evalSeries Sample.stored = .ok [9.0] ∧
      (Expr.binary nine (.test .and) s).evalSeries Sample.stored = .ok [1.0, nan, nan] := by
  intro nine s
  have bound : Sample.stored.series.get? "s" = some [5.0] := rfl
  have isScalar : nine.isSeries Sample.stored.hasSeries = false := rfl
  have isNumber : nine.evalNumber Sample.stored = .ok 9.0 := by
    simp only [nine, Expr.evalNumber, Expr.evalScalar]
    rfl
  have sum := (Pairing.evalSeries_expr_stored (.arithmetic .add (by decide)) bound isScalar isNumber).1
  have greater := (Pairing.evalSeries_expr_stored (.choice .max) bound isScalar isNumber).2
  have both := (Pairing.evalSeries_expr_stored (.test .and (by decide)) bound isScalar isNumber).2
  exact ⟨bound, isScalar, isNumber, sum.trans (eq_ok_of_toOption (by decide +kernel)),
    greater.trans (eq_ok_of_toOption (by decide +kernel)), both.trans (eq_ok_of_toOption (by decide +kernel))⟩

/-- A comparison of the stored series with a number comes to no series at all, although a sum of the two does. -/
theorem stored_comparison_refused :
    Sample.stored.series.get? "s" = some [5.0] ∧
      (Expr.binary (.name "s") (.test .greater) (.number 1.0)).evalSeries Sample.stored =
        .error .incomparableLengths :=
  ⟨rfl, rfl⟩

end IndicatorScript
