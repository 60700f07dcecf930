import IndicatorScript.Frame
import IndicatorScript.Run

/-!
# The interpreter

A program can be stopped by what runs it, wherever it is: when calls are nested too deeply for the stack, or when a
whole number has too many digits to be read or printed. How much there is room for is not the program's to say.
-/

namespace IndicatorScript

inductive Guard where
  | stackExhausted
  | unreadableInteger (most digits : Nat)
  | unprintableInteger (most : Nat)
  deriving DecidableEq, Repr

def Guard.message : Guard → String
  | .stackExhausted => "maximum recursion depth exceeded"
  | .unreadableInteger most digits =>
      "Exceeds the limit (" ++ toString most ++ " digits) for integer string conversion: value has " ++
        toString digits ++ " digits; use sys.set_int_max_str_digits() to increase the limit"
  | .unprintableInteger most =>
      "Exceeds the limit (" ++ toString most ++
        " digits) for integer string conversion; use sys.set_int_max_str_digits() to increase the limit"

structure Interpreter (α : Type) where
  /-- The most digits of a whole number that is printed, if there is a bound. -/
  digits : Option Nat
  /-- What stops the reading of a text of settings, if something does. -/
  readingGuard? : String → Option Guard
  /-- What stops the compilation of a source, if something does. -/
  compilingGuard? : Limits → String → Option Guard
  /-- Whether the stack runs out while these statements are run. -/
  exhausts : Limits → List (Statement α) → Market α → Bindings (Value α) → Bool

namespace Interpreter

variable {α : Type}

def unbounded : Interpreter α where
  digits := none
  readingGuard? _ := none
  compilingGuard? _ _ := none
  exhausts _ _ _ _ := false

def printingGuard? (interpreter : Interpreter α) (i : Int) : Option Guard :=
  match interpreter.digits with
  | none => none
  | some most => if most < Decimal.digitCount i.natAbs then some (.unprintableInteger most) else none

end Interpreter

end IndicatorScript
