import IndicatorScript.Number

/-!
# Bars

One period of prices, and the series that a list of bars holds.
-/

namespace IndicatorScript

structure Bar (α : Type) where
  opening : α
  high : α
  low : α
  close : α
  volume : α
  deriving Repr

inductive Price where
  | opening | high | low | close | volume
  deriving DecidableEq, Repr

inductive Composite where
  | highLow | highLowClose | openHighLowClose
  deriving DecidableEq, Repr

namespace Bar

variable {α : Type}

def price (bar : Bar α) : Price → α
  | .opening => bar.opening
  | .high => bar.high
  | .low => bar.low
  | .close => bar.close
  | .volume => bar.volume

open Number in
def composite [Number α] (bar : Bar α) : Composite → α
  | .highLow => (bar.high + bar.low) / ofNat 2
  | .highLowClose => (bar.high + bar.low + bar.close) / ofNat 3
  | .openHighLowClose => (bar.opening + bar.high + bar.low + bar.close) / ofNat 4

end Bar

end IndicatorScript
