import IndicatorScript.Indicator.Rolling

/-!
# Bollinger bands

The rolling mean, and the lines that lie a multiple of the rolling deviation above and below it.
-/

namespace IndicatorScript.Indicator

variable {α : Type} [Number α]

def bandWidth (length : Nat) (multiple : α) (series : List α) : List α :=
  (stdev length series).map (· * multiple)

def bandMiddle (length : Nat) (_multiple : α) (series : List α) : List α := sma length series

def bandUpper (length : Nat) (multiple : α) (series : List α) : List α :=
  List.zipWith (· + ·) (sma length series) (bandWidth length multiple series)

def bandLower (length : Nat) (multiple : α) (series : List α) : List α :=
  List.zipWith (· - ·) (sma length series) (bandWidth length multiple series)

end IndicatorScript.Indicator
