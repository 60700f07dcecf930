import IndicatorScript.Builtin

/-!
# One value for each bar

Whatever their length, every indicator yields as many values as it is given.
-/

namespace IndicatorScript

variable {α : Type} [Number α]

@[simp] theorem length_apply_windowed (indicator : Windowed) (length : Nat) (series : List α) :
    (indicator.apply length series).length = series.length := by
  cases indicator <;> simp [Windowed.apply, Indicator.sma, Indicator.stdev, Indicator.highest, Indicator.lowest]

@[simp] theorem length_apply_convergence (part : Convergence) (fast slow signal : Nat) (series : List α) :
    (part.apply fast slow signal series).length = series.length := by
  have line : (Indicator.macdLine fast slow series).length = series.length := by simp [Indicator.macdLine]
  have signals : (Indicator.macdSignal fast slow signal series).length = series.length := by
    simp [Indicator.macdSignal, line]
  cases part with
  | line => exact line
  | signal => exact signals
  | histogram => simp [Convergence.apply, Indicator.macdHistogram, line, signals]

@[simp] theorem length_apply_band (line : Band) (length : Nat) (multiple : α) (series : List α) :
    (line.apply length multiple series).length = series.length := by
  have middle : (Indicator.sma length series).length = series.length := by simp [Indicator.sma]
  have width : (Indicator.bandWidth length multiple series).length = series.length := by
    simp [Indicator.bandWidth, Indicator.stdev]
  cases line with
  | upper => simp [Band.apply, Indicator.bandUpper, middle, width]
  | middle => exact middle
  | lower => simp [Band.apply, Indicator.bandLower, middle, width]

end IndicatorScript
