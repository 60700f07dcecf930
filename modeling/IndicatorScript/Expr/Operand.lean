import IndicatorScript.Context

/-!
# Operations on series

An operand is a series or a number. A number meets each value of a series; two numbers make a series that never
changes. The operators on single numbers come first, then their form for series.
-/

namespace IndicatorScript

open Number

variable {α : Type} [Number α]

def broadcast (bars : Nat) (x : α) : List α := List.replicate bars x

def Arithmetic.apply (op : Arithmetic) (x y : α) : α :=
  match op with
  | .add => x + y
  | .subtract => x - y
  | .multiply => x * y
  | .divide => x / y

/-- Any number but zero counts as true, the undefined one too. -/
def Test.holds (op : Test) (x y : α) : Bool :=
  match op with
  | .greater => Number.less y x
  | .less => Number.less x y
  | .greaterEqual => Number.lessEqual y x
  | .lessEqual => Number.lessEqual x y
  | .equal => Number.equal x y
  | .notEqual => !Number.equal x y
  | .and => !isZero x && !isZero y
  | .or => !isZero x || !isZero y
  | .not => isZero y

def Test.isUnary (op : Test) : Bool := op = .not

def Operator.applyScalar (op : Operator) (x y : Value α) : Except (EvalError α) (Value α) :=
  match op with
  | .arithmetic op => do
      let x ← x.toNumber
      let y ← y.toNumber
      if op = .divide ∧ isZero y then .error .divisionByZero else .ok (.number (op.apply x y))
  | .test op => do
      let x ← x.toNumber
      let y ← y.toNumber
      .ok (.boolean (op.holds x y))
  | .unknown symbol => .error (.unknownOperator symbol)

inductive Operand (α : Type) where
  | scalar (x : α)
  | series (values : List α)

namespace Operand

def values (bars : Nat) : Operand α → List α
  | .scalar x => broadcast bars x
  | .series xs => xs

/-- Whether some value is zero. A number counts even when there are no bars. -/
def hasZero : Operand α → Bool
  | .scalar x => isZero x
  | .series xs => xs.any isZero

def map (bars : Nat) (f : α → α) : Operand α → List α
  | .scalar x => broadcast bars (f x)
  | .series xs => xs.map f

def zipWith (bars : Nat) (f : α → α → α) : Operand α → Operand α → List α
  | .scalar x, .scalar y => broadcast bars (f x y)
  | .scalar x, .series ys => ys.map (f x)
  | .series xs, .scalar y => xs.map (f · y)
  | .series xs, .series ys => List.zipWith f xs ys

def checkAligned : Operand α → Operand α → Except (EvalError α) Unit
  | .series xs, .series ys =>
      if xs.length = ys.length then .ok ()
      else .error (.lengthsDiffer [Min.min xs.length ys.length, Max.max xs.length ys.length])
  | _, _ => .ok ()

end Operand

def Test.applyAt (op : Test) (x y : α) : α :=
  if (!op.isUnary && isNaN x) || isNaN y then nan else ofBool (op.holds x y)

/-- A test of two series. Beyond the shorter one a connective is undefined, and no comparison can be made. -/
def Test.applySeries (op : Test) (xs ys : List α) : Except (EvalError α) (List α) :=
  match op with
  | .not => .ok (ys.map fun y => op.applyAt y y)
  | .and | .or =>
      .ok (List.zipWith op.applyAt xs ys ++
        List.replicate (Max.max xs.length ys.length - Min.min xs.length ys.length) nan)
  | _ =>
      if xs.length = ys.length then .ok (List.zipWith op.applyAt xs ys) else .error .incomparableLengths

/-- The operation on two operands of which one is a series, or is wanted as one. -/
def Operator.applySeries (bars : Nat) (op : Operator) (x y : Operand α) : Except (EvalError α) (List α) := do
  x.checkAligned y
  match op with
  | .arithmetic op =>
      if op = .divide ∧ y.hasZero then .error .divisionByZero else .ok (x.zipWith bars op.apply y)
  | .test op => op.applySeries (x.values bars) (y.values bars)
  | .unknown symbol => .error (.unknownOperator symbol)

end IndicatorScript
