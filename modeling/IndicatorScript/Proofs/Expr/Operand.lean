import IndicatorScript.Expr.Operand

/-!
# Operands that fit

An operand fits a number of bars if it is a number or a series with a value at each bar. An operation on operands that
fit is made value by value, and fails for no reason but a divisor that is zero or an operator that is none.
-/

namespace IndicatorScript

variable {α : Type} {bars : Nat}

theorem length_broadcast (bars : Nat) (x : α) : (broadcast bars x).length = bars := List.length_replicate

namespace Operand

def Fits (bars : Nat) : Operand α → Prop
  | .scalar _ => True
  | .series values => values.length = bars

theorem map_eq (bars : Nat) (f : α → α) (x : Operand α) : x.map bars f = (x.values bars).map f := by
  cases x with
  | scalar x => exact List.map_replicate.symm
  | series xs => rfl

namespace Fits

variable {x y : Operand α}

theorem checkAligned (fits : x.Fits bars) (fits' : y.Fits bars) : x.checkAligned y = .ok () := by
  cases x with
  | scalar x => rfl
  | series xs =>
    cases y with
    | scalar y => rfl
    | series ys => exact if_pos (fits.trans fits'.symm)

theorem length_values (fits : x.Fits bars) : (x.values bars).length = bars := by
  cases x with
  | scalar x => exact length_broadcast bars x
  | series xs => exact fits

theorem length_map (fits : x.Fits bars) (f : α → α) : (x.map bars f).length = bars := by
  rw [map_eq, List.length_map, fits.length_values]

theorem zipWith_eq (fits : x.Fits bars) (fits' : y.Fits bars) (f : α → α → α) :
    x.zipWith bars f y = List.zipWith f (x.values bars) (y.values bars) := by
  cases x with
  | scalar x =>
    cases y with
    | scalar y =>
      simp [Operand.zipWith, values, broadcast]
    | series ys =>
      cases fits'
      apply List.ext_getElem
      · simp [Operand.zipWith, values, broadcast]
      · intro i _ _
        simp [Operand.zipWith, values, broadcast]
  | series xs =>
    cases y with
    | scalar y =>
      cases fits
      apply List.ext_getElem
      · simp [Operand.zipWith, values, broadcast]
      · intro i _ _
        simp [Operand.zipWith, values, broadcast]
    | series ys => rfl

theorem length_zipWith_values (fits : x.Fits bars) (fits' : y.Fits bars) (f : α → α → α) :
    (List.zipWith f (x.values bars) (y.values bars)).length = bars := by
  rw [List.length_zipWith, fits.length_values, fits'.length_values, Nat.min_self]

end Fits

end Operand

variable [Number α]

theorem Test.applySeries_of_length_eq (op : Test) {xs ys : List α} (same : xs.length = ys.length) :
    op.applySeries xs ys = .ok (List.zipWith op.applyAt xs ys) := by
  cases op with
  | not =>
    refine congrArg Except.ok (List.ext_getElem ?_ fun i _ _ => ?_)
    · rw [List.length_map, List.length_zipWith, same, Nat.min_self]
    · rw [List.getElem_map, List.getElem_zipWith]
      rfl
  | and | or => simp [applySeries, same]
  | _ => exact if_pos same

section Operator

variable {x y : Operand α}

theorem Arithmetic.applySeries_of_fits (op : Arithmetic) (fits : x.Fits bars) (fits' : y.Fits bars) :
    (Operator.arithmetic op).applySeries bars x y =
      if op = .divide ∧ y.hasZero = true then .error .divisionByZero
      else .ok (List.zipWith op.apply (x.values bars) (y.values bars)) := by
  rw [Operator.applySeries, fits.checkAligned fits', ← fits.zipWith_eq fits']
  rfl

theorem Test.applySeries_of_fits (op : Test) (fits : x.Fits bars) (fits' : y.Fits bars) :
    (Operator.test op).applySeries bars x y = .ok (List.zipWith op.applyAt (x.values bars) (y.values bars)) := by
  rw [Operator.applySeries, fits.checkAligned fits']
  exact op.applySeries_of_length_eq (fits.length_values.trans fits'.length_values.symm)

theorem Operator.applySeries_unknown (symbol : String) (fits : x.Fits bars) (fits' : y.Fits bars) :
    (Operator.unknown symbol).applySeries bars x y = .error (.unknownOperator symbol) := by
  rw [Operator.applySeries, fits.checkAligned fits']
  rfl

end Operator

end IndicatorScript
