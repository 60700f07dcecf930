import IndicatorScript.Indicator.Strength
import IndicatorScript.Proofs.Number.Exact

/-!
# Relative strength in exact arithmetic

The average gain and the average loss are known until a change is met that is not, and are never negative. So the
strength is defined exactly as long as they are (`IsAverages.strength_iff`).
-/

namespace IndicatorScript.Indicator

open Exact

@[simp] theorem rise_value (change : ℝ) : rise (value change) = value (max change 0) := by
  simp [rise]

@[simp] theorem fall_value (change : ℝ) : fall (value change) = value (max (-change) 0) := by
  simp [fall]

@[simp] theorem rise_undefined : rise (undefined : Exact) = undefined := max_undefined _

@[simp] theorem fall_undefined : fall (undefined : Exact) = undefined := by
  rw [fall, sub_undefined, max_undefined]

theorem wilder_value {length : Nat} (positive : 0 < length) (average x : ℝ) :
    wilder length (value average) (value x) = value ((average * (length - 1) + x) / length) := by
  have nonzero : (length : ℝ) ≠ 0 := Nat.cast_ne_zero.mpr positive.ne'
  simp only [wilder, ofNat_eq, Nat.cast_pred positive, value_mul, value_add, value_div _ nonzero]

@[simp] theorem undefined_wilder (length : Nat) (x : Exact) : wilder length undefined x = undefined := by
  simp [wilder]

@[simp] theorem wilder_undefined (length : Nat) (average : Exact) : wilder length average undefined = undefined := by
  simp [wilder]

theorem wilder_nonneg {length : Nat} (positive : 0 < length) {average x : ℝ} (nonneg : 0 ≤ average) (nonneg' : 0 ≤ x) :
    0 ≤ (average * (length - 1) + x) / length := by
  have one_le : (1 : ℝ) ≤ length := Nat.one_le_cast.mpr positive
  have left : 0 ≤ average * (length - 1) := mul_nonneg nonneg (sub_nonneg.mpr one_le)
  positivity

theorem strength_value {gain loss : ℝ} (nonneg : 0 ≤ gain) (nonneg' : 0 ≤ loss) :
    strength (value gain) (value loss) = value (if loss = 0 then 100 else 100 - 100 / (1 + gain / loss)) := by
  unfold strength
  by_cases none : loss = 0
  · rw [if_pos ((isZero_value loss).mpr none), if_pos none]
    simp
  · have divisor : 1 + gain / loss ≠ 0 := by positivity
    rw [if_neg (mt (isZero_value loss).mp none), if_neg none]
    simp [value_div _ none, value_div _ divisor]

@[simp] theorem strength_undefined : strength (undefined : Exact) undefined = undefined := by
  simp [strength]

/-- An average gain and an average loss, which are numbers just if all their changes are. -/
structure IsAverages (known : Prop) (gain loss : Exact) : Prop where
  numbers : known → ∃ g l, 0 ≤ g ∧ 0 ≤ l ∧ gain = value g ∧ loss = value l
  gaps : ¬ known → gain = undefined ∧ loss = undefined

namespace IsAverages

variable {known : Prop} {gain loss : Exact}

theorem strength_iff (averages : IsAverages known gain loss) : (∃ x, strength gain loss = value x) ↔ known := by
  constructor
  · rintro ⟨x, same⟩
    by_contra unknown
    rcases averages.gaps unknown with ⟨rfl, rfl⟩
    rw [strength_undefined] at same
    cases same
  · intro known
    rcases averages.numbers known with ⟨g, l, nonneg, nonneg', rfl, rfl⟩
    exact ⟨_, strength_value nonneg nonneg'⟩

theorem step {length : Nat} (positive : 0 < length) (averages : IsAverages known gain loss) (change : Exact) :
    IsAverages (known ∧ ∃ x, change = value x) (wilder length gain (rise change))
      (wilder length loss (fall change)) := by
  constructor
  · rintro ⟨known, x, rfl⟩
    rcases averages.numbers known with ⟨g, l, nonneg, nonneg', rfl, rfl⟩
    rw [rise_value, fall_value, wilder_value positive, wilder_value positive]
    exact ⟨_, _, wilder_nonneg positive nonneg (le_max_right x 0), wilder_nonneg positive nonneg' (le_max_right (-x) 0),
      rfl, rfl⟩
  · intro unknown
    cases change with
    | undefined => simp
    | value x =>
      rcases averages.gaps fun known => unknown ⟨known, x, rfl⟩ with ⟨rfl, rfl⟩
      simp

theorem first {length : Nat} (positive : 0 < length) (early : List Exact) :
    IsAverages (undefined ∉ early) (Number.sum (early.map rise) / Number.ofNat length)
      (Number.sum (early.map fall) / Number.ofNat length) := by
  have nonzero : (length : ℝ) ≠ 0 := Nat.cast_ne_zero.mpr positive.ne'
  rw [sum_eq, sum_eq]
  constructor
  · intro known
    have defined : ∀ e ∈ early, Number.isFinite e = true := fun e mem =>
      isFinite_iff.mpr fun gap => known (gap ▸ mem)
    rw [← map_value_reals defined, List.map_map, List.map_map]
    have means (f : ℝ → ℝ) (nonneg : ∀ x, 0 ≤ f x) : ∃ mean, 0 ≤ mean ∧
        ((reals early).map (value ∘ f)).sum / Number.ofNat length = value mean := by
      rw [← List.map_map, sum_map_value, ofNat_eq, value_div _ nonzero]
      refine ⟨_, div_nonneg (List.sum_nonneg fun y mem => ?_) (Nat.cast_nonneg length), rfl⟩
      rcases List.mem_map.mp mem with ⟨x, -, rfl⟩
      exact nonneg x
    rcases means (max · 0) fun x => le_max_right x 0 with ⟨g, nonneg, gain⟩
    rcases means (fun x => max (-x) 0) fun x => le_max_right (-x) 0 with ⟨l, nonneg', loss⟩
    refine ⟨g, l, nonneg, nonneg', ?_, ?_⟩
    · rw [← gain]
      congr 3
      exact funext rise_value
    · rw [← loss]
      congr 3
      exact funext fall_value
  · intro unknown
    have mem := not_not.mp unknown
    have rises := sum_of_undefined_mem (rise_undefined ▸ List.mem_map_of_mem (f := rise) mem)
    have falls := sum_of_undefined_mem (fall_undefined ▸ List.mem_map_of_mem (f := fall) mem)
    rw [rises, falls]
    exact ⟨rfl, rfl⟩

end IsAverages

end IndicatorScript.Indicator
