import IndicatorScript.Builtin
import IndicatorScript.Expr

/-!
# Kinds of expression

Whether an expression yields a series or a scalar, given which names are declared as series. Literals and positions in
a series are scalars, a call follows the table of built-in functions, and an operation is a series when one of its
operands is. Calls of unknown functions count as scalars.
-/

namespace IndicatorScript

inductive Kind where
  | scalar | series
  deriving DecidableEq, Repr

namespace Expr

variable {α : Type}

mutual

def isSeries (declared : String → Bool) : Expr α → Bool
  | .number _ | .text _ | .boolean _ | .index _ _ => false
  | .name n => declared n
  | .call function arguments =>
      match Builtin.ofName? function with
      | none => false
      | some builtin =>
          match builtin.signature.produces with
          | .scalar => false
          | .series => true
          | .elementwise => anySeries declared arguments
  | .binary left _ right => left.isSeries declared || right.isSeries declared

def anySeries (declared : String → Bool) : List (Expr α) → Bool
  | [] => false
  | argument :: rest => argument.isSeries declared || anySeries declared rest

end

def kind (declared : String → Bool) (e : Expr α) : Kind :=
  if e.isSeries declared then .series else .scalar

end Expr

end IndicatorScript
