import IndicatorScript.Proofs.Indicator.Units
import IndicatorScript.Proofs.Indicator.Wilder

/-!
# Flat windows

The mean of a window lies between its extremes, and meets one of them only where all numbers of the window are equal.
These are the windows without deviation (`exists_statisticsOf`). So the deviation of a series is zero somewhere if and
only if the series has a run of equal numbers as long as the window (`any_isZero_stdev`).
-/

namespace IndicatorScript

open Exact

/-- What is known of the statistics of a window by its numbers. -/
structure StatisticsOf (numbers : Set ℝ) (low average high deviation : ℝ) : Prop where
  isLeast : IsLeast numbers low
  isGreatest : IsGreatest numbers high
  low_le : low ≤ average
  le_high : average ≤ high
  low_eq_iff : low = average ↔ numbers.Subsingleton
  eq_high_iff : average = high ↔ numbers.Subsingleton
  deviation_nonneg : 0 ≤ deviation
  deviation_eq_zero_iff : deviation = 0 ↔ numbers.Subsingleton

/-- So many consecutive bars have one and the same number. -/
def HasRun (series : List Exact) (length : Nat) : Prop :=
  ∃ start x, ∀ k, k < length → series[start + k]? = some (.value x)

namespace Indicator

theorem subsingleton_iff_forall_eq {s : Set ℝ} {m : ℝ} (mem : m ∈ s) : s.Subsingleton ↔ ∀ x ∈ s, x = m :=
  ⟨fun single _ inside => single inside mem, Set.subsingleton_of_forall_eq m⟩

/-! ## Numbers -/

section Numbers

variable {xs : List ℝ}

theorem mean_nonneg (terms : ∀ x ∈ xs, 0 ≤ x) : 0 ≤ mean xs :=
  div_nonneg (List.sum_nonneg terms) (Nat.cast_nonneg _)

variable (nonempty : xs ≠ [])

include nonempty

theorem mean_eq_zero_iff (terms : ∀ x ∈ xs, 0 ≤ x) : mean xs = 0 ↔ ∀ x ∈ xs, x = 0 := by
  have nonzero : (xs.length : ℝ) ≠ 0 := Nat.cast_ne_zero.mpr (List.length_pos_iff.mpr nonempty).ne'
  rw [mean, div_eq_zero_iff, or_iff_left nonzero, sum_eq_zero_iff terms]

theorem mean_affine_sign {a b : ℝ} (terms : ∀ x ∈ xs, 0 ≤ a * x + b) :
    0 ≤ a * mean xs + b ∧ (a * mean xs + b = 0 ↔ ∀ x ∈ xs, a * x + b = 0) := by
  have moved : ∀ y ∈ xs.map fun x => a * x + b, 0 ≤ y := List.forall_mem_map.mpr terms
  rw [← mean_affine nonempty, mean_eq_zero_iff (by simpa using nonempty) moved, List.forall_mem_map]
  exact ⟨mean_nonneg moved, Iff.rfl⟩

theorem le_mean {low : ℝ} (isLeast : IsLeast {x | x ∈ xs} low) :
    low ≤ mean xs ∧ (low = mean xs ↔ {x | x ∈ xs}.Subsingleton) := by
  have terms : ∀ x ∈ xs, 0 ≤ 1 * x + -low := fun x mem => by linarith [isLeast.2 mem]
  rcases mean_affine_sign nonempty terms with ⟨nonneg, zero⟩
  have same (x : ℝ) : 1 * x + -low = 0 ↔ x = low := by rw [one_mul, add_neg_eq_zero]
  rw [same] at zero
  simp only [same] at zero
  exact ⟨by linarith, by rw [eq_comm, zero, subsingleton_iff_forall_eq isLeast.1]; rfl⟩

theorem mean_le {high : ℝ} (isGreatest : IsGreatest {x | x ∈ xs} high) :
    mean xs ≤ high ∧ (mean xs = high ↔ {x | x ∈ xs}.Subsingleton) := by
  have terms : ∀ x ∈ xs, 0 ≤ -1 * x + high := fun x mem => by linarith [isGreatest.2 mem]
  rcases mean_affine_sign nonempty terms with ⟨nonneg, zero⟩
  have same (x : ℝ) : -1 * x + high = 0 ↔ x = high := by rw [neg_one_mul, neg_add_eq_zero]
  simp only [same] at zero
  exact ⟨by linarith, by rw [zero, subsingleton_iff_forall_eq isGreatest.1]; rfl⟩

theorem spread_eq_zero_iff : spread xs = 0 ↔ {x | x ∈ xs}.Subsingleton := by
  constructor
  · intro zero
    have squares : ∀ y ∈ xs.map fun x => (x - mean xs) ^ 2, 0 ≤ y := List.forall_mem_map.mpr fun _ _ => sq_nonneg _
    have close := List.forall_mem_map.mp ((sum_eq_zero_iff squares).mp zero)
    refine Set.subsingleton_of_forall_eq (mean xs) fun x mem => ?_
    exact sub_eq_zero.mp ((pow_eq_zero_iff two_ne_zero).mp (close x mem))
  · intro single
    rcases List.exists_mem_of_ne_nil xs nonempty with ⟨x, mem⟩
    exact spread_of_flat nonempty ((subsingleton_iff_forall_eq mem).mp single)

theorem deviation_eq_zero_iff : deviation xs = 0 ↔ {x | x ∈ xs}.Subsingleton := by
  have nonzero : (xs.length : ℝ) ≠ 0 := Nat.cast_ne_zero.mpr (List.length_pos_iff.mpr nonempty).ne'
  rw [deviation, Real.sqrt_eq_zero (div_nonneg (spread_nonneg xs) (Nat.cast_nonneg _)), div_eq_zero_iff,
    or_iff_left nonzero, spread_eq_zero_iff nonempty]

end Numbers

/-! ## Windows -/

section Windows

variable {length : Nat} (positive : 0 < length) {series : List Exact} {i : Nat}

include positive

theorem exists_statisticsOf (full : FullAt series length i) :
    ∃ low average high deviation,
      (lowest length series)[i]? = some (value low) ∧
      (sma length series)[i]? = some (value average) ∧
      (highest length series)[i]? = some (value high) ∧
      (stdev length series)[i]? = some (value deviation) ∧
      StatisticsOf (numbersIn series length i) low average high deviation := by
  rcases exists_windowAt positive full with ⟨xs, window⟩
  have nonempty := window.ne_nil positive
  rcases exists_least nonempty with ⟨low, least, isLeast⟩
  rcases exists_greatest nonempty with ⟨high, greatest, isGreatest⟩
  rcases le_mean nonempty isLeast with ⟨low_le, low_eq_iff⟩
  rcases mean_le nonempty isGreatest with ⟨le_high, eq_high_iff⟩
  refine ⟨low, mean xs, high, deviation xs, ?_, ?_, ?_, ?_, window.setOf_mem ▸ ?_⟩
  · rw [lowest, window.getElem?_rolling positive, least]
  · rw [sma_eq positive, window.getElem?_rolling positive, reals_map_value]
  · rw [highest, window.getElem?_rolling positive, greatest]
  · rw [stdev_eq positive, window.getElem?_rolling positive, reals_map_value]
  · exact ⟨isLeast, isGreatest, low_le, le_high, low_eq_iff, eq_high_iff, Real.sqrt_nonneg _,
      deviation_eq_zero_iff nonempty⟩

theorem stdev_eq_zero_iff (series : List Exact) (i : Nat) :
    (stdev length series)[i]? = some (value 0) ↔
      FullAt series length i ∧ (numbersIn series length i).Subsingleton := by
  rw [stdev_eq positive]
  refine rolling_eq_iff positive Set.Subsingleton (fun xs nonempty => ?_) series i
  rw [reals_map_value, Exact.value.injEq, deviation_eq_zero_iff nonempty]

theorem hasRun_iff (series : List Exact) :
    HasRun series length ↔ ∃ i, FullAt series length i ∧ (numbersIn series length i).Subsingleton := by
  constructor
  · rintro ⟨start, x, run⟩
    have inside {j : Nat} (le : j ≤ start + length - 1) (new : start + length - 1 < j + length) :
        series[j]? = some (value x) := by
      have found := run (j - start) (by omega)
      rwa [Nat.add_sub_cancel' (by omega)] at found
    refine ⟨start + length - 1, ⟨by omega, fun j new le => ⟨x, inside le new⟩⟩, ?_⟩
    refine Set.subsingleton_of_forall_eq x fun y ⟨j, le, new, found⟩ => ?_
    rw [inside le new] at found
    exact (Exact.value.inj (Option.some.inj found)).symm
  · rintro ⟨i, ⟨late, full⟩, single⟩
    rcases full i (by omega) le_rfl with ⟨x, last⟩
    refine ⟨i + 1 - length, x, fun k within => ?_⟩
    rcases full (i + 1 - length + k) (by omega) (by omega) with ⟨y, found⟩
    obtain rfl : y = x :=
      single ⟨i + 1 - length + k, by omega, by omega, found⟩ ⟨i, le_rfl, by omega, last⟩
    exact found

theorem any_isZero_stdev (series : List Exact) :
    (stdev length series).any Number.isZero = true ↔ HasRun series length := by
  have isZero_iff {e : Exact} : Number.isZero e = true ↔ e = value 0 := by
    cases e <;> simp
  rw [hasRun_iff positive, List.any_eq_true]
  simp only [List.mem_iff_getElem?, isZero_iff, ← stdev_eq_zero_iff positive]
  constructor
  · rintro ⟨_, ⟨i, found⟩, rfl⟩
    exact ⟨i, found⟩
  · rintro ⟨i, found⟩
    exact ⟨_, ⟨i, found⟩, rfl⟩

end Windows

end Indicator

end IndicatorScript
