import IndicatorScript.Decimal.Dyadic
import IndicatorScript.Decimal.Reader
import IndicatorScript.Expr
import IndicatorScript.Number

/-!
# Doubles

The numbers that scripts are run in, and the literals that they are read from.
-/

namespace IndicatorScript

namespace Number

def doubleOfInt? (i : Int) : Option Float :=
  let magnitude := Float.ofNat i.natAbs
  if magnitude.isFinite then some (if i < 0 then -magnitude else magnitude) else none

end Number

instance : Number Float where
  nan := 0.0 / 0.0
  isNaN := Float.isNaN
  isInfinite := Float.isInf
  ofNat := Float.ofNat
  ofInt? := Number.doubleOfInt?
  toInt? x := (Decimal.Dyadic.ofFloat x).toInt?
  equal x y := x == y
  less := Float.lt
  lessEqual := Float.le
  isSigned x := x.toBits ≥ 0x8000000000000000
  abs := Float.abs
  sqrt := Float.sqrt

instance : Literal Float where
  zero := 0.0
  read? := Decimal.read?

end IndicatorScript
