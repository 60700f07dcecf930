import IndicatorScript.Builtin
import IndicatorScript.Proofs.Number.Undefined

/-!
# Indicators of a delayed series

An indicator waits for its series to begin: an undefined value in front of the series puts one in front of what is made
of it and changes nothing else (`Waits`). A window that such a value is in is not full, and no running statistic takes
notice of it. Averages and strengths begin at the first value that is defined. So whatever number of undefined values
comes first, the indicator is the one of the series behind them, that many bars later (`apply_delayed`).
-/

namespace IndicatorScript

variable {α : Type} [Number α]

/-- A series that begins later by a number of bars, at which it is undefined. -/
def delayed (bars : Nat) (series : List α) : List α := List.replicate bars Number.nan ++ series

theorem delayed_succ (bars : Nat) (series : List α) :
    delayed (bars + 1) series = Number.nan :: delayed bars series := by
  rw [delayed, List.replicate_succ, List.cons_append, delayed]

namespace Indicator

open Number

/-- What is made of a series begins one bar later if the series does. -/
def Waits (indicator : List α → List α) : Prop :=
  ∀ series, indicator (nan :: series) = nan :: indicator series

namespace Waits

variable {indicator other : List α → List α}

theorem delayed (waits : Waits indicator) (bars : Nat) (series : List α) :
    indicator (delayed bars series) = IndicatorScript.delayed bars (indicator series) := by
  induction bars with
  | zero => rfl
  | succ bars ih => rw [delayed_succ, waits, ih, delayed_succ]

theorem comp (outer : Waits other) (inner : Waits indicator) : Waits fun series => other (indicator series) :=
  fun series => (congrArg other (inner series)).trans (outer _)

theorem map {f : α → α} (gap : f nan = nan) (waits : Waits indicator) : Waits fun series => (indicator series).map f :=
  fun series => (congrArg (List.map f) (waits series)).trans (by rw [List.map_cons, gap])

theorem zipWith {f : α → α → α} (gap : f nan nan = nan) (first : Waits indicator) (second : Waits other) :
    Waits fun series => List.zipWith f (indicator series) (other series) :=
  fun series => (congrArg₂ (List.zipWith f) (first series) (second series)).trans (by rw [List.zipWith_cons_cons, gap])

end Waits

/-! ## Running statistics -/

/-- An undefined value can enter a window and leave it without a trace. -/
structure Running.Skips {σ : Type} (statistic : Running σ α) : Prop where
  enter (state : σ) : statistic.enter state nan = state
  leave (state : σ) : statistic.leave state nan = state

namespace Running.Skips

variable {σ : Type} {statistic : Running σ α} (skips : statistic.Skips)

include skips

theorem ofWindow_append (window : List α) : statistic.ofWindow (window ++ [nan]) = statistic.ofWindow window := by
  rw [ofWindow, List.foldr_append, List.foldr_cons, skips.enter, List.foldr_nil, ofWindow]

theorem ofWindow_take_append (length : Nat) (window : List α) :
    statistic.ofWindow ((window ++ [nan]).take length) = statistic.ofWindow (window.take length) := by
  by_cases full : length ≤ window.length
  · rw [List.take_append_of_le_length full]
  · rw [List.take_of_length_le (by simp; omega), List.take_of_length_le (by omega), skips.ofWindow_append]

theorem next_start (length : Nat) : statistic.next length [] statistic.start nan = statistic.start := by
  have single : statistic.ofWindow [nan] = statistic.start := skips.enter _
  rw [Running.next]
  split
  · exact single
  · next more => simp [skips.enter, List.take_of_length_le (l := [nan]) (Nat.le_of_not_le more), single]

theorem next_append (length : Nat) (past : List α) (state : σ) (x : α) :
    statistic.next length (past ++ [nan]) state x = statistic.next length past state x := by
  rw [Running.next, Running.next, ← List.cons_append, skips.ofWindow_take_append]
  by_cases inside : length - 1 < past.length
  · rw [List.getElem?_append_left inside]
  -- past the values before, what leaves is the undefined one, or none does
  rw [List.getElem?_append_right (Nat.le_of_not_lt inside), List.getElem?_eq_none (Nat.le_of_not_lt inside)]
  cases length - 1 - past.length with
  | zero => simp only [List.getElem?_cons_zero, skips.leave]
  | succ n => rfl

theorem states_append (length : Nat) (past : List α) (state : σ) (series : List α) :
    statistic.states length (past ++ [nan]) state series = statistic.states length past state series := by
  induction series generalizing past state with
  | nil => rfl
  | cons x rest ih => rw [Running.states, Running.states, skips.next_append, ← List.cons_append, ih]

end Running.Skips

section Windows

variable [LawfulNaN α]

theorem Running.mean_skips : (Running.mean (α := α)).Skips where
  enter state := by simp [mean, RunningSum.enter]
  leave state := by simp [mean, RunningSum.leave]

theorem Running.deviation_skips : (Running.deviation (α := α)).Skips where
  enter state := by simp [deviation, RunningSpread.enter]
  leave state := by simp [deviation, RunningSpread.leave]

/-! ## Windows -/

omit [Number α] [LawfulNaN α] in
theorem histories_append (past older series : List α) :
    histories (past ++ older) series = (histories past series).map (· ++ older) := by
  induction series generalizing past with
  | nil => rfl
  | cons x rest ih => rw [histories, ← List.cons_append, ih, histories, List.map_cons]

omit [LawfulNaN α] in
theorem length_le_of_isComplete {length : Nat} {history : List α} (complete : isComplete length history = true) :
    length ≤ history.length := by
  simp only [isComplete, List.length_take, Bool.and_eq_true, decide_eq_true_eq] at complete
  omega

theorem isComplete_append (length : Nat) (history : List α) :
    isComplete length (history ++ [nan]) = isComplete length history := by
  by_cases full : length ≤ history.length
  · rw [isComplete, List.take_append_of_le_length full, isComplete]
  · have incomplete : isComplete length history = false :=
      Bool.eq_false_iff.mpr fun complete => full (length_le_of_isComplete complete)
    rw [incomplete, isComplete, List.take_of_length_le (by simp; omega), List.all_append]
    simp

theorem isComplete_gap (length : Nat) : isComplete length [(nan : α)] = false := by
  rw [← List.nil_append [nan], isComplete_append]
  cases length <;> rfl

theorem overWindow_append (length : Nat) (statistic : List α → α) (history : List α) :
    overWindow length statistic (history ++ [nan]) = overWindow length statistic history := by
  rw [overWindow, isComplete_append, overWindow]
  split
  · next complete => rw [List.take_append_of_le_length (length_le_of_isComplete complete)]
  · rfl

theorem rolling_waits (length : Nat) (statistic : List α → α) : Waits (rolling length statistic) := by
  intro series
  have first : overWindow length statistic [nan] = nan := by rw [overWindow, isComplete_gap, if_neg Bool.false_ne_true]
  rw [rolling, histories, List.map_cons, first, ← List.nil_append [nan], histories_append, List.map_map, rolling]
  congr 2
  exact funext (overWindow_append length statistic)

theorem running_waits {σ : Type} {statistic : Running σ α} (skips : statistic.Skips) (length : Nat) :
    Waits (running statistic length) := by
  intro series
  rw [running, histories, Running.states, skips.next_start, List.zipWith_cons_cons, isComplete_gap,
    ← List.nil_append [nan], histories_append, skips.states_append, List.zipWith_map_left]
  simp only [isComplete_append, Bool.false_eq_true, if_false, running]

theorem sma_waits (length : Nat) : Waits (sma (α := α) length) := running_waits Running.mean_skips length

theorem stdev_waits (length : Nat) : Waits (stdev (α := α) length) := running_waits Running.deviation_skips length

/-! ## Averages and strengths -/

theorem ema_waits (length : Nat) : Waits (ema (α := α) length) := by
  intro series
  rw [ema, smoothFromStart, isFinite_nan, if_neg Bool.false_ne_true, ema]

theorem macdLine_waits (fast slow : Nat) : Waits (macdLine (α := α) fast slow) :=
  (ema_waits fast).zipWith (nan_sub nan) (ema_waits slow)

theorem macdSignal_waits (fast slow signal : Nat) : Waits (macdSignal (α := α) fast slow signal) :=
  (ema_waits signal).comp (macdLine_waits fast slow)

theorem macdHistogram_waits (fast slow signal : Nat) : Waits (macdHistogram (α := α) fast slow signal) :=
  (macdLine_waits fast slow).zipWith (nan_sub nan) (macdSignal_waits fast slow signal)

theorem bandWidth_waits (length : Nat) (multiple : α) : Waits (bandWidth length multiple) :=
  (stdev_waits length).map (nan_mul multiple)

theorem rsi_waits (length : Nat) : Waits (rsi (α := α) length) := rsi_of_undefined length isNaN_nan

end Windows

end Indicator

open Indicator Number

variable [LawfulNaN α]

theorem Windowed.apply_waits (indicator : Windowed) (length : Nat) : Waits (indicator.apply (α := α) length) := by
  cases indicator with
  | sma => exact sma_waits length
  | ema => exact ema_waits length
  | rsi => exact rsi_waits length
  | stdev => exact stdev_waits length
  | highest | lowest => exact rolling_waits length _

theorem Convergence.apply_waits (part : Convergence) (fast slow signal : Nat) :
    Waits (part.apply (α := α) fast slow signal) := by
  cases part with
  | line => exact macdLine_waits fast slow
  | signal => exact macdSignal_waits fast slow signal
  | histogram => exact macdHistogram_waits fast slow signal

theorem Band.apply_waits (line : Band) (length : Nat) (multiple : α) : Waits (line.apply length multiple) := by
  cases line with
  | upper => exact (sma_waits length).zipWith (nan_add nan) (bandWidth_waits length multiple)
  | middle => exact sma_waits length
  | lower => exact (sma_waits length).zipWith (nan_sub nan) (bandWidth_waits length multiple)

/-- Undefined values in front of a series only delay every indicator of it. -/
theorem apply_delayed (bars : Nat) (series : List α) :
    (∀ (indicator : Windowed) (length : Nat),
      indicator.apply length (delayed bars series) = delayed bars (indicator.apply length series)) ∧
    (∀ (part : Convergence) (fast slow signal : Nat),
      part.apply fast slow signal (delayed bars series) = delayed bars (part.apply fast slow signal series)) ∧
    ∀ (line : Band) (length : Nat) (multiple : α),
      line.apply length multiple (delayed bars series) = delayed bars (line.apply length multiple series) :=
  ⟨fun indicator length => (indicator.apply_waits length).delayed bars series,
    fun part fast slow signal => (part.apply_waits fast slow signal).delayed bars series,
    fun line length multiple => (line.apply_waits length multiple).delayed bars series⟩

theorem apply_delayed_sample :
    let series : List Float := [4.0, Number.nan, 8.0]
    Windowed.ema.apply 3 (delayed 2 series) = delayed 2 (Windowed.ema.apply 3 series) ∧
      Convergence.signal.apply 2 3 signalLength (delayed 2 series) =
        delayed 2 (Convergence.signal.apply 2 3 signalLength series) ∧
      Band.upper.apply 5 2.0 (delayed 2 series) = delayed 2 (Band.upper.apply 5 2.0 series) := by
  intro series
  rcases apply_delayed 2 series with ⟨windowed, convergence, band⟩
  exact ⟨windowed .ema 3, convergence .signal 2 3 signalLength, band .upper 5 2.0⟩

end IndicatorScript
