import IndicatorScript.Indicator.Smoothing
import IndicatorScript.Proofs.Number.Exact

/-!
# Averages in exact arithmetic

An average that has begun has a weight from zero to one, which the smoothing factor keeps there. So the share of a new
value is positive, and no average is ever divided by zero (`step_value`).
-/

namespace IndicatorScript.Indicator

open Exact

/-- A smoothing with this factor. -/
structure Smoothing.Has (smoothing : Smoothing Exact) (factor : ℝ) : Prop where
  same : smoothing.factor = .value factor
  positive : 0 < factor
  le_one : factor ≤ 1

theorem smoothingFactor_exact {length : Nat} (positive : 0 < length) :
    (smoothingFactor length : Exact) = value (2 / (length + 1)) := by
  have centre : ((length - 1 : Nat) : ℝ) = length - 1 := Nat.cast_pred positive
  have above : (0 : ℝ) < length + 1 := Nat.cast_add_one_pos length
  have divisor : (1 : ℝ) + (length - 1) / 2 = (length + 1) / 2 := by ring
  have nonzero : ((length : ℝ) + 1) / 2 ≠ 0 := by positivity
  simp only [smoothingFactor, ofNat_eq, Nat.cast_one, Nat.cast_ofNat, value_div _ two_ne_zero, value_add, centre,
    divisor, value_div _ nonzero, one_div_div]

theorem Smoothing.ofLength_has {length : Nat} (positive : 0 < length) :
    (Smoothing.ofLength length).Has (2 / (length + 1)) := by
  have above : (0 : ℝ) < length + 1 := Nat.cast_add_one_pos length
  have one_le : (1 : ℝ) ≤ length := Nat.one_le_cast.mpr positive
  exact ⟨smoothingFactor_exact positive, by positivity, (div_le_one above).mpr (by linarith)⟩

noncomputable def decayed (factor weight : ℝ) : ℝ := weight * (1 - factor)

noncomputable def Smoothing.share (smoothing : Smoothing Exact) (factor weight : ℝ) : ℝ :=
  if smoothing.balanced then 1 - decayed factor weight else factor

namespace Smoothed

variable {smoothing : Smoothing Exact} {factor weight : ℝ} (has : smoothing.Has factor) (average : ℝ)

include has

theorem decayed_nonneg (nonneg : 0 ≤ weight) : 0 ≤ decayed factor weight :=
  mul_nonneg nonneg (sub_nonneg.mpr has.le_one)

theorem decayed_le (nonneg : 0 ≤ weight) : decayed factor weight ≤ weight :=
  mul_le_of_le_one_right nonneg (by linarith [has.positive])

theorem share_pos (le_one : weight ≤ 1) : 0 < smoothing.share factor weight := by
  unfold Smoothing.share decayed
  split
  · have := has.positive
    have := has.le_one
    nlinarith
  · exact has.positive

theorem step_undefined :
    Smoothed.step smoothing ⟨value average, value weight⟩ undefined =
      ⟨value average, value (decayed factor weight)⟩ := by
  simp [Smoothed.step, has.same, decayed]

theorem weight_eq : value weight * (Number.ofNat 1 - smoothing.factor) = value (decayed factor weight) := by
  simp [has.same, decayed]

theorem share_eq :
    (if smoothing.balanced then Number.ofNat 1 - value weight * (Number.ofNat 1 - smoothing.factor)
      else smoothing.factor) = value (smoothing.share factor weight) := by
  unfold Smoothing.share decayed
  split <;> simp [has.same]

theorem divisor_pos (nonneg : 0 ≤ weight) (le_one : weight ≤ 1) :
    0 < decayed factor weight + smoothing.share factor weight :=
  add_pos_of_nonneg_of_pos (decayed_nonneg has nonneg) (share_pos has le_one)

theorem step_value (nonneg : 0 ≤ weight) (le_one : weight ≤ 1) (x : ℝ) :
    Smoothed.step smoothing ⟨value average, value weight⟩ (value x) =
      ⟨value ((decayed factor weight * average + smoothing.share factor weight * x) /
        (decayed factor weight + smoothing.share factor weight)), value 1⟩ := by
  have divisor := (divisor_pos has nonneg le_one).ne'
  rw [Smoothed.step, if_pos (isFinite_value x)]
  dsimp only
  rw [share_eq has, weight_eq has, ofNat_eq, Nat.cast_one]
  congr 1
  split
  · next equal =>
    -- an average that is the value already is their mean
    obtain rfl := (equal_value average x).mp equal
    rw [← add_mul, mul_div_cancel_left₀ _ divisor]
  · rw [value_mul, value_mul, value_add, value_add, value_div _ divisor]

/-! ## Where an average has begun -/

theorem smooth_values (nonneg : 0 ≤ weight) (le_one : weight ≤ 1) (series : List Exact) :
    ∀ e ∈ smooth smoothing ⟨value average, value weight⟩ series, ∃ x, e = value x := by
  induction series generalizing average weight with
  | nil => simp [smooth]
  | cons e rest ih =>
    cases e with
    | undefined =>
      rw [smooth, step_undefined has]
      have decayed := ih average (decayed_nonneg has nonneg) ((decayed_le has nonneg).trans le_one)
      simpa using decayed
    | value x =>
      rw [smooth, step_value has average nonneg le_one]
      simpa using ih _ zero_le_one le_rfl

end Smoothed

end IndicatorScript.Indicator
