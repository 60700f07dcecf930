import IndicatorScript.Proofs.Indicator.Defined

/-!
# Extremes of windows

What a statistic makes of a full window it makes of the numbers at the last bars (`rolling_eq_iff`). The highest value
of a window is the greatest of these numbers, and the lowest value the least.
-/

namespace IndicatorScript

open Exact

/-- The numbers of a series at the last bars, of which there are as many as the length of the window. -/
def numbersIn (series : List Exact) (length i : Nat) : Set ℝ :=
  {x | ∃ j, j ≤ i ∧ i < j + length ∧ series[j]? = some (.value x)}

namespace Indicator

/-! ## The numbers of a window -/

namespace WindowAt

variable {series : List Exact} {length i : Nat} {xs : List ℝ} (window : WindowAt series length i xs)

include window

theorem mem_iff (x : ℝ) : x ∈ xs ↔ x ∈ numbersIn series length i := by
  have late := window.le_succ
  rw [List.mem_iff_getElem?]
  simp only [window.getElem?_eq]
  constructor
  · rintro ⟨k, within, found⟩
    exact ⟨i - k, Nat.sub_le i k, by omega, found⟩
  · rintro ⟨j, le, new, found⟩
    exact ⟨i - j, by omega, by rwa [Nat.sub_sub_self le]⟩

theorem setOf_mem : {x | x ∈ xs} = numbersIn series length i :=
  Set.ext window.mem_iff

end WindowAt

theorem rolling_eq_iff {length : Nat} (positive : 0 < length) {statistic : List Exact → Exact} {m : ℝ}
    (isOf : Set ℝ → Prop)
    (known : ∀ xs : List ℝ, xs ≠ [] → (statistic (xs.map value) = value m ↔ isOf {x | x ∈ xs}))
    (series : List Exact) (i : Nat) :
    (rolling length statistic series)[i]? = some (value m) ↔
      FullAt series length i ∧ isOf (numbersIn series length i) := by
  by_cases full : FullAt series length i
  · rcases exists_windowAt positive full with ⟨xs, window⟩
    rw [window.getElem?_rolling positive, Option.some_inj, known xs (window.ne_nil positive), window.setOf_mem,
      and_iff_right full]
  · exact iff_of_false (fun found => full (fullAt_of_rolling positive found)) fun both => full both.1

/-! ## Greatest and least numbers -/

section Extremes

variable {xs : List ℝ} (nonempty : xs ≠ [])

include nonempty

theorem exists_greatest : ∃ m, greatest (xs.map value) = value m ∧ IsGreatest {x | x ∈ xs} m := by
  rcases greatest_exact nonempty with ⟨m, mem, same, above⟩
  exact ⟨m, same, mem, above⟩

theorem exists_least : ∃ m, least (xs.map value) = value m ∧ IsLeast {x | x ∈ xs} m := by
  rcases least_exact nonempty with ⟨m, mem, same, below⟩
  exact ⟨m, same, mem, below⟩

theorem greatest_eq_iff (m : ℝ) : greatest (xs.map value) = value m ↔ IsGreatest {x | x ∈ xs} m := by
  rcases exists_greatest nonempty with ⟨m', same, isGreatest⟩
  rw [same, Exact.value.injEq]
  exact ⟨fun equal => equal ▸ isGreatest, isGreatest.unique⟩

theorem least_eq_iff (m : ℝ) : least (xs.map value) = value m ↔ IsLeast {x | x ∈ xs} m := by
  rcases exists_least nonempty with ⟨m', same, isLeast⟩
  rw [same, Exact.value.injEq]
  exact ⟨fun equal => equal ▸ isLeast, isLeast.unique⟩

end Extremes

end Indicator

end IndicatorScript
