/-!
# Numbers

The arithmetic that series and scalars are computed in. Indicators and scripts are evaluated over any `Number`: doubles
when a script is run, exact numbers with an undefined value when its results are reasoned about.
-/

namespace IndicatorScript

class Number (α : Type) extends Add α, Sub α, Mul α, Div α where
  /-- The undefined value. -/
  nan : α
  isNaN : α → Bool
  isInfinite : α → Bool
  ofNat : Nat → α
  /-- None if the integer is beyond the range of the numbers. -/
  ofInt? : Int → Option α
  /-- The integer that a number is, if it is one. -/
  toInt? : α → Option Int
  equal : α → α → Bool
  less : α → α → Bool
  lessEqual : α → α → Bool
  /-- Whether the sign is a minus, which zero can have too. -/
  isSigned : α → Bool
  abs : α → α
  sqrt : α → α

namespace Number

variable {α : Type} [Number α]

def isZero (x : α) : Bool := equal x (ofNat 0)

def isFinite (x : α) : Bool := !isNaN x && !isInfinite x

/-- The greater of two numbers, undefined if one of them is; the second of two equal ones. -/
def max (x y : α) : α := if less y x || isNaN x then x else y

def min (x y : α) : α := if less x y || isNaN x then x else y

def ofBool (b : Bool) : α := ofNat b.toNat

end Number

end IndicatorScript
