import IndicatorScript.Builtin

/-!
# Indicators of a prefix

An indicator looks at no later bar: on the first `n` values of a series it yields the first `n` values that it yields
on the series. For windows and averages this is so because they go through the series once. The relative strength index
asks how long the series is before it begins, which changes nothing but where its undefined values end.
-/

namespace IndicatorScript.Indicator

open Number

variable {α : Type}

/-! ## Windows -/

theorem histories_take (n : Nat) (past series : List α) :
    histories past (series.take n) = (histories past series).take n := by
  induction series generalizing n past with
  | nil => simp [histories]
  | cons x rest ih =>
    cases n with
    | zero => rfl
    | succ n => simp only [List.take_succ_cons, histories, ih]

theorem states_take {σ : Type} (statistic : Running σ α) (length n : Nat) (past : List α) (state : σ)
    (series : List α) :
    statistic.states length past state (series.take n) = (statistic.states length past state series).take n := by
  induction series generalizing n past state with
  | nil => simp [Running.states]
  | cons x rest ih =>
    cases n with
    | zero => rfl
    | succ n => simp only [List.take_succ_cons, Running.states, ih]

variable [Number α]

theorem rolling_take (length n : Nat) (statistic : List α → α) (series : List α) :
    rolling length statistic (series.take n) = (rolling length statistic series).take n := by
  rw [rolling, rolling, histories_take, List.map_take]

theorem running_take {σ : Type} (statistic : Running σ α) (length n : Nat) (series : List α) :
    running statistic length (series.take n) = (running statistic length series).take n := by
  rw [running, running, histories_take, states_take, List.take_zipWith]

/-! ## Averages -/

theorem smooth_take (smoothing : Smoothing α) (state : Smoothed α) (n : Nat) (series : List α) :
    smooth smoothing state (series.take n) = (smooth smoothing state series).take n := by
  induction series generalizing n state with
  | nil => simp [smooth]
  | cons x rest ih =>
    cases n with
    | zero => rfl
    | succ n => simp only [List.take_succ_cons, smooth, ih]

theorem smoothFromStart_take (smoothing : Smoothing α) (n : Nat) (series : List α) :
    smoothFromStart smoothing (series.take n) = (smoothFromStart smoothing series).take n := by
  induction series generalizing n with
  | nil => simp [smoothFromStart]
  | cons x rest ih =>
    cases n with
    | zero => rfl
    | succ n =>
      rw [List.take_succ_cons, smoothFromStart, smoothFromStart]
      split
      · rw [List.take_succ_cons, smooth_take]
      · rw [List.take_succ_cons, ih]

theorem ema_take (length n : Nat) (series : List α) : ema length (series.take n) = (ema length series).take n :=
  smoothFromStart_take _ n series

theorem macdLine_take (fast slow n : Nat) (series : List α) :
    macdLine fast slow (series.take n) = (macdLine fast slow series).take n := by
  rw [macdLine, macdLine, ema_take, ema_take, List.take_zipWith]

theorem macdSignal_take (fast slow signal n : Nat) (series : List α) :
    macdSignal fast slow signal (series.take n) = (macdSignal fast slow signal series).take n := by
  rw [macdSignal, macdSignal, macdLine_take, ema_take]

theorem macdHistogram_take (fast slow signal n : Nat) (series : List α) :
    macdHistogram fast slow signal (series.take n) = (macdHistogram fast slow signal series).take n := by
  rw [macdHistogram, macdHistogram, macdLine_take, macdSignal_take, List.take_zipWith]

theorem bandWidth_take (length n : Nat) (multiple : α) (series : List α) :
    bandWidth length multiple (series.take n) = (bandWidth length multiple series).take n := by
  rw [bandWidth, bandWidth, stdev, stdev, running_take, List.map_take]

/-! ## Relative strength -/

theorem strengths_take (length : Nat) (gain loss : α) (n : Nat) (changes : List α) :
    strengths length gain loss (changes.take n) = (strengths length gain loss changes).take n := by
  induction changes generalizing n gain loss with
  | nil => simp [strengths]
  | cons change rest ih =>
    cases n with
    | zero => rfl
    | succ n => simp only [List.take_succ_cons, strengths, ih]

theorem changes_take (n : Nat) (series : List α) : changes (series.take (n + 1)) = (changes series).take n := by
  induction series generalizing n with
  | nil => simp [changes]
  | cons x rest ih =>
    cases n with
    | zero => simp [changes]
    | succ n =>
      cases rest with
      | nil => simp [changes]
      | cons y rest =>
        have further := ih n
        simp only [changes, List.take_succ_cons, List.tail_cons, List.zipWith_cons_cons] at further ⊢
        rw [further]

theorem rsiFromStart_take (length n : Nat) (series : List α) :
    rsiFromStart length (series.take n) = (rsiFromStart length series).take n := by
  have short : ∀ xs : List α, xs.length ≤ length → rsiFromStart length xs = List.replicate xs.length nan := by
    intro xs le
    rw [rsiFromStart, if_pos le, List.map_const']
  by_cases few : series.length ≤ length
  · have fewer : (series.take n).length ≤ length := by
      rw [List.length_take]
      omega
    rw [short series few, short _ fewer, List.take_replicate, List.length_take]
  by_cases fewer : n ≤ length
  · have le : (series.take n).length ≤ length := by
      rw [List.length_take]
      omega
    have count : (series.take n).length = n := by
      rw [List.length_take]
      omega
    rw [short _ le, count, rsiFromStart, if_neg few]
    rw [List.take_append_of_le_length (by simpa using fewer), List.take_replicate, Nat.min_eq_left fewer]
  -- both series are longer than the first average, which looks at the same changes
  obtain ⟨more, rfl⟩ : ∃ more, n = length + (more + 1) := ⟨n - length - 1, by omega⟩
  have many : ¬ (series.take (length + (more + 1))).length ≤ length := by
    rw [List.length_take]
    omega
  have prefixed : changes (series.take (length + (more + 1))) = (changes series).take (length + more) :=
    changes_take (length + more) series
  rw [rsiFromStart, rsiFromStart, if_neg few, if_neg many, prefixed]
  simp only [List.take_take, Nat.min_eq_left (Nat.le_add_right length more), List.drop_take, Nat.add_sub_cancel_left,
    strengths_take]
  have undefined : (List.replicate length (nan : α)).length ≤ length + (more + 1) := by
    rw [List.length_replicate]
    omega
  rw [List.take_append, List.take_of_length_le undefined, List.length_replicate, Nat.add_sub_cancel_left,
    List.take_succ_cons]

theorem rsi_take (length n : Nat) (series : List α) : rsi length (series.take n) = (rsi length series).take n := by
  induction series generalizing n with
  | nil => simp [rsi, rsiFromStart]
  | cons x rest ih =>
    cases n with
    | zero => simp [rsi, rsiFromStart]
    | succ n =>
      rw [List.take_succ_cons]
      by_cases gap : isNaN x = true
      · rw [rsi_of_undefined length gap, rsi_of_undefined length gap, ih, List.take_succ_cons]
      · have defined := Bool.eq_false_iff.mpr gap
        rw [rsi_of_defined length defined, rsi_of_defined length defined, ← List.take_succ_cons, rsiFromStart_take]

end IndicatorScript.Indicator

namespace IndicatorScript

variable {α : Type} [Number α]

theorem Windowed.apply_take (indicator : Windowed) (length n : Nat) (series : List α) :
    indicator.apply length (series.take n) = (indicator.apply length series).take n := by
  cases indicator with
  | sma | stdev => exact Indicator.running_take _ length n series
  | ema => exact Indicator.ema_take length n series
  | rsi => exact Indicator.rsi_take length n series
  | highest | lowest => exact Indicator.rolling_take length n _ series

theorem Convergence.apply_take (part : Convergence) (fast slow signal n : Nat) (series : List α) :
    part.apply fast slow signal (series.take n) = (part.apply fast slow signal series).take n := by
  cases part with
  | line => exact Indicator.macdLine_take fast slow n series
  | signal => exact Indicator.macdSignal_take fast slow signal n series
  | histogram => exact Indicator.macdHistogram_take fast slow signal n series

theorem Band.apply_take (line : Band) (length n : Nat) (multiple : α) (series : List α) :
    line.apply length multiple (series.take n) = (line.apply length multiple series).take n := by
  have middle : Indicator.sma length (series.take n) = (Indicator.sma length series).take n :=
    Indicator.running_take _ length n series
  have width := Indicator.bandWidth_take length n multiple series
  cases line with
  | upper => simp only [Band.apply, Indicator.bandUpper, middle, width, List.take_zipWith]
  | middle => exact middle
  | lower => simp only [Band.apply, Indicator.bandLower, middle, width, List.take_zipWith]

end IndicatorScript
