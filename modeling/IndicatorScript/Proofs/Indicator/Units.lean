import IndicatorScript.Proofs.Indicator.Extreme
import IndicatorScript.Proofs.Indicator.Reflection

/-!
# Averages and extremes in other units

A series that is scaled and shifted has its windows and its averages scaled and shifted with it (`rolling_affine`,
`ema_affine`); a negative scale exchanges the extremes (`extreme_affine`). The convergence of two averages does not see
the shift, which cancels from their difference (`zipWith_sub_affine`). Together this is `apply_affine`.
-/

namespace IndicatorScript

open Exact

namespace Indicator

variable (a b : ℝ)

theorem affine_undefined (series : List Exact) : affine a b (undefined :: series) = undefined :: affine a b series := rfl

theorem affine_value (x : ℝ) (series : List Exact) :
    affine a b (value x :: series) = value (a * x + b) :: affine a b series :=
  rfl

theorem affine_map_value (xs : List ℝ) : affine a b (xs.map value) = (xs.map fun x => a * x + b).map value := by
  rw [affine, List.map_map, List.map_map]
  rfl

/-! ## Windows -/

section Histories

variable {α : Type}

theorem histories_map (f : α → α) (past series : List α) :
    histories (past.map f) (series.map f) = (histories past series).map (List.map f) := by
  induction series generalizing past with
  | nil => rfl
  | cons x rest ih => rw [List.map_cons, histories, histories, List.map_cons, ← ih, List.map_cons]

end Histories

theorem isFinite_affine (e : Exact) : Number.isFinite (value a * e + value b) = Number.isFinite e := by
  cases e <;> rfl

theorem isComplete_affine (length : Nat) (history : List Exact) :
    isComplete length (affine a b history) = isComplete length history := by
  have finite : (fun e => Number.isFinite (value a * e + value b)) = Number.isFinite := funext (isFinite_affine a b)
  simp only [isComplete, affine, ← List.map_take, List.length_map, List.all_map, Function.comp_def, finite]

variable {a b}

theorem overWindow_affine {length : Nat} {statistic statistic' : List Exact → Exact}
    (same : ∀ xs : List ℝ, xs ≠ [] →
      statistic (affine a b (xs.map value)) = value a * statistic' (xs.map value) + value b) (history : List Exact) :
    overWindow length statistic (affine a b history) = value a * overWindow length statistic' history + value b := by
  rw [overWindow, isComplete_affine, overWindow]
  split
  · next complete =>
    rcases isComplete_iff.mp complete with ⟨positive, xs, window, full⟩
    have taken : (affine a b history).take length = affine a b (history.take length) := List.map_take.symm
    rw [taken, window, same xs (List.ne_nil_of_length_pos (by omega))]
  · rfl

theorem rolling_affine {length : Nat} {statistic statistic' : List Exact → Exact}
    (same : ∀ xs : List ℝ, xs ≠ [] →
      statistic (affine a b (xs.map value)) = value a * statistic' (xs.map value) + value b) (series : List Exact) :
    rolling length statistic (affine a b series) = affine a b (rolling length statistic' series) := by
  have moved : histories [] (affine a b series) = (histories [] series).map (affine a b) :=
    histories_map _ [] series
  rw [rolling, moved, rolling, affine, List.map_map, List.map_map]
  exact List.map_congr_left fun history _ => overWindow_affine same history

theorem mean_affine {xs : List ℝ} (nonempty : xs ≠ []) (a b : ℝ) :
    mean (xs.map fun x => a * x + b) = a * mean xs + b := by
  have nonzero : (xs.length : ℝ) ≠ 0 := Nat.cast_ne_zero.mpr (List.length_pos_iff.mpr nonempty).ne'
  have total : (xs.map fun x => a * x + b).sum = a * xs.sum + xs.length * b := by
    rw [List.sum_map_add, List.sum_map_mul_left, List.map_id', List.map_const', List.sum_replicate, nsmul_eq_mul]
  rw [mean, total, List.length_map, mean]
  field_simp

theorem sma_affine {length : Nat} (positive : 0 < length) (a b : ℝ) (series : List Exact) :
    sma length (affine a b series) = affine a b (sma length series) := by
  rw [sma_eq positive, sma_eq positive]
  refine rolling_affine (fun xs nonempty => ?_) series
  rw [affine_map_value, reals_map_value, reals_map_value, mean_affine nonempty, value_mul, value_add]

/-! ## Extremes -/

section Extremes

variable {length : Nat}

theorem setOf_mem_affine (a b : ℝ) (xs : List ℝ) :
    {x | x ∈ xs.map fun x => a * x + b} = (fun x => a * x + b) '' {x | x ∈ xs} :=
  Set.ext fun _ => List.mem_map

theorem monotone_affine (nonneg : 0 ≤ a) (b : ℝ) : Monotone fun x => a * x + b :=
  fun _ _ le => by simpa using mul_le_mul_of_nonneg_left le nonneg

theorem antitone_affine (nonpos : a ≤ 0) (b : ℝ) : Antitone fun x => a * x + b :=
  fun _ _ le => by simpa using mul_le_mul_of_nonpos_left le nonpos

/-- An extreme of the numbers becomes an extreme of the scaled and shifted ones, the same or the other. -/
theorem extreme_affine {extreme extreme' : List Exact → Exact} {isOf isOf' : Set ℝ → ℝ → Prop}
    (known : ∀ {xs : List ℝ}, xs ≠ [] → ∀ m, extreme (xs.map value) = value m ↔ isOf {x | x ∈ xs} m)
    (given : ∀ {xs : List ℝ}, xs ≠ [] → ∃ m, extreme' (xs.map value) = value m ∧ isOf' {x | x ∈ xs} m)
    (moved : ∀ {s : Set ℝ} {m : ℝ}, isOf' s m → isOf ((fun x => a * x + b) '' s) (a * m + b)) (series : List Exact) :
    rolling length extreme (affine a b series) = affine a b (rolling length extreme' series) := by
  refine rolling_affine (fun xs nonempty => ?_) series
  rcases given nonempty with ⟨m, same, isExtreme⟩
  rw [affine_map_value, same, value_mul, value_add, known (by simpa using nonempty), setOf_mem_affine]
  exact moved isExtreme

theorem highest_affine (nonneg : 0 ≤ a) (b : ℝ) (series : List Exact) :
    highest length (affine a b series) = affine a b (highest length series) :=
  extreme_affine greatest_eq_iff exists_greatest (monotone_affine nonneg b).map_isGreatest series

theorem lowest_affine (nonneg : 0 ≤ a) (b : ℝ) (series : List Exact) :
    lowest length (affine a b series) = affine a b (lowest length series) :=
  extreme_affine least_eq_iff exists_least (monotone_affine nonneg b).map_isLeast series

theorem highest_affine_of_nonpos (nonpos : a ≤ 0) (b : ℝ) (series : List Exact) :
    highest length (affine a b series) = affine a b (lowest length series) :=
  extreme_affine greatest_eq_iff exists_least (antitone_affine nonpos b).map_isLeast series

theorem lowest_affine_of_nonpos (nonpos : a ≤ 0) (b : ℝ) (series : List Exact) :
    lowest length (affine a b series) = affine a b (highest length series) :=
  extreme_affine least_eq_iff exists_greatest (antitone_affine nonpos b).map_isGreatest series

end Extremes

/-! ## Averages -/

section Averages

variable {smoothing : Smoothing Exact} {factor weight : ℝ} (has : smoothing.Has factor)

include has

theorem smooth_affine (a b average : ℝ) (nonneg : 0 ≤ weight) (le_one : weight ≤ 1) (series : List Exact) :
    smooth smoothing ⟨value (a * average + b), value weight⟩ (affine a b series) =
      affine a b (smooth smoothing ⟨value average, value weight⟩ series) := by
  induction series generalizing average weight with
  | nil => rfl
  | cons e rest ih =>
    cases e with
    | undefined =>
      have further := ih average (Smoothed.decayed_nonneg has nonneg) ((Smoothed.decayed_le has nonneg).trans le_one)
      rw [affine_undefined, smooth, smooth, Smoothed.step_undefined has, Smoothed.step_undefined has, further,
        affine_value]
    | value x =>
      have divisor := (Smoothed.divisor_pos has nonneg le_one).ne'
      -- the mean of two numbers in other units is their mean in these units
      have moved : (decayed factor weight * (a * average + b) + smoothing.share factor weight * (a * x + b)) /
            (decayed factor weight + smoothing.share factor weight) =
          a * ((decayed factor weight * average + smoothing.share factor weight * x) /
            (decayed factor weight + smoothing.share factor weight)) + b := by
        field_simp
        ring
      rw [affine_value, smooth, smooth, Smoothed.step_value has _ nonneg le_one, Smoothed.step_value has _ nonneg le_one,
        moved, ih _ zero_le_one le_rfl, affine_value]

end Averages

theorem ema_affine {length : Nat} (positive : 0 < length) (a b : ℝ) (series : List Exact) :
    ema length (affine a b series) = affine a b (ema length series) := by
  have has := Smoothing.ofLength_has positive
  rw [ema, ema]
  induction series with
  | nil => rfl
  | cons e rest ih =>
    cases e with
    | undefined => exact congrArg (undefined :: ·) ih
    | value x =>
      have further := smooth_affine has a b x zero_le_one le_rfl rest
      rw [affine_value, smoothFromStart, if_pos (isFinite_value _), smoothFromStart, if_pos (isFinite_value x), ofNat_eq,
        Nat.cast_one, further, affine_value]

/-! ## Convergence -/

theorem affine_zero (a : ℝ) (series : List Exact) : affine a 0 series = series.map (value a * ·) := by
  refine List.map_congr_left fun e _ => ?_
  cases e <;> simp

theorem zipWith_sub_affine (a b : ℝ) (xs ys : List Exact) :
    List.zipWith (· - ·) (affine a b xs) (affine a b ys) = (List.zipWith (· - ·) xs ys).map (value a * ·) := by
  rw [affine, affine, List.zipWith_map, List.map_zipWith]
  simp only [sub_affine]

theorem ema_scaled {length : Nat} (positive : 0 < length) (a : ℝ) (series : List Exact) :
    ema length (series.map (value a * ·)) = (ema length series).map (value a * ·) := by
  rw [← affine_zero, ema_affine positive, affine_zero]

theorem convergence_affine (part : Convergence) {fast slow signal : Nat} (positive : 0 < fast) (positive' : 0 < slow)
    (positive'' : 0 < signal) (a b : ℝ) (series : List Exact) :
    part.apply fast slow signal (affine a b series) = (part.apply fast slow signal series).map (value a * ·) := by
  have line : macdLine fast slow (affine a b series) = (macdLine fast slow series).map (value a * ·) := by
    rw [macdLine, ema_affine positive, ema_affine positive', zipWith_sub_affine, macdLine]
  have signals : macdSignal fast slow signal (affine a b series) =
      (macdSignal fast slow signal series).map (value a * ·) := by
    rw [macdSignal, line, ema_scaled positive'', macdSignal]
  cases part with
  | line => exact line
  | signal => exact signals
  | histogram =>
    rw [Convergence.apply, macdHistogram, line, signals, ← affine_zero, ← affine_zero, zipWith_sub_affine,
      Convergence.apply, macdHistogram]

end Indicator

open Indicator

/-- Averages and extremes follow a change of units, in which a negative scale exchanges the highest and the lowest
values. Convergences are scaled only. -/
theorem apply_affine (series : List Exact) (a b : ℝ) :
    (∀ length, 0 < length →
      sma length (affine a b series) = affine a b (sma length series) ∧
      ema length (affine a b series) = affine a b (ema length series) ∧
      (0 ≤ a → highest length (affine a b series) = affine a b (highest length series) ∧
        lowest length (affine a b series) = affine a b (lowest length series)) ∧
      (a ≤ 0 → highest length (affine a b series) = affine a b (lowest length series) ∧
        lowest length (affine a b series) = affine a b (highest length series))) ∧
    ∀ (part : Convergence) fast slow signal, 0 < fast → 0 < slow → 0 < signal →
      part.apply fast slow signal (affine a b series) = (part.apply fast slow signal series).map (value a * ·) := by
  refine ⟨fun length positive => ⟨sma_affine positive a b series, ema_affine positive a b series, fun nonneg => ?_,
    fun nonpos => ?_⟩, fun part fast slow signal positive positive' positive'' => ?_⟩
  · exact ⟨highest_affine nonneg b series, lowest_affine nonneg b series⟩
  · exact ⟨highest_affine_of_nonpos nonpos b series, lowest_affine_of_nonpos nonpos b series⟩
  · exact convergence_affine part positive positive' positive'' a b series

theorem apply_affine_reflected :
    let series := [value 1, value 4, undefined]
    0 < 2 ∧ (0 : ℝ) ≤ 3 ∧ (-2 : ℝ) ≤ 0 ∧ lowest 2 series = [undefined, value 1, undefined] ∧
      lowest 2 (affine 3 5 series) = [undefined, value 8, undefined] ∧
      highest 2 (affine (-2) 5 series) = [undefined, value 3, undefined] ∧
      sma 2 (affine (-2) 5 series) = affine (-2) 5 (sma 2 series) ∧
      Convergence.signal.apply 1 2 9 (affine (-2) 5 series) =
        (Convergence.signal.apply 1 2 9 series).map (value (-2) * ·) := by
  intro series
  have least : lowest 2 series = [undefined, value 1, undefined] := by
    simp [series, lowest, rolling, histories, overWindow, isComplete, Indicator.least]
  have scaled := (apply_affine series 3 5).1 2 two_pos
  have reflected := apply_affine series (-2) 5
  refine ⟨two_pos, by norm_num, by norm_num, least, ?_, ?_, (reflected.1 2 two_pos).1,
    reflected.2 .signal 1 2 9 one_pos two_pos (by decide)⟩
  · rw [(scaled.2.2.1 (by norm_num)).2, least]
    norm_num [affine]
  · rw [((reflected.1 2 two_pos).2.2.2 (by norm_num)).1, least]
    norm_num [affine]

end IndicatorScript
