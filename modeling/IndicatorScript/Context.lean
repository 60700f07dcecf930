import IndicatorScript.Bindings
import IndicatorScript.EvalError
import IndicatorScript.Expr

/-!
# Evaluation contexts

What expressions are evaluated in: the bars, the parameters of the caller, the scalars and series declared so far, and
the header of the script. A declared scalar hides a parameter of its name. A declared series hides one only where a
series can stand; where a scalar is needed, the parameter is read.
-/

namespace IndicatorScript

structure Context (α : Type) where
  bars : List (Bar α)
  parameters : Bindings (Value α) := {}
  scalars : Bindings (Value α) := {}
  series : Bindings (List α) := {}
  study : Study := {}

variable {α : Type}

def Context.scalar? (context : Context α) (name : String) : Option (Value α) :=
  (context.scalars.get? name).or (context.parameters.get? name)

def Context.hasSeries (context : Context α) (name : String) : Bool := context.series.contains name

theorem Context.hasSeries_eq_false_iff {context : Context α} {name : String} :
    context.hasSeries name = false ↔ context.series.get? name = none :=
  Option.isSome_eq_false_iff.trans Option.isNone_iff_eq_none

namespace Value

variable [Number α]

def toNumber : Value α → Except (EvalError α) α
  | .number x => .ok x
  | .integer i =>
      match Number.ofInt? i with
      | some x => .ok x
      | .none => .error .integerTooLarge
  | .boolean b => .ok (Number.ofBool b)
  | .text s => .error (.notNumber (.text s))
  | .none => .error (.notNumber .none)

def toLength (value : Value α) : Except (EvalError α) Nat := do
  let x ← value.toNumber
  match Number.toInt? x with
  | some i => if 1 ≤ i then .ok i.toNat else .error (.notLength value)
  | .none => .error (.notLength value)

theorem toLength_of_toInt? {value : Value α} {x : α} {i : Int} (isNumber : value.toNumber = .ok x)
    (isInt : Number.toInt? x = some i) (pos : 1 ≤ i) : value.toLength = .ok i.toNat := by
  rw [toLength, isNumber]
  dsimp only [bind, Except.bind]
  rw [isInt]
  exact if_pos pos

end Value

end IndicatorScript
