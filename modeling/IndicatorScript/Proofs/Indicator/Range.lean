import IndicatorScript.Proofs.Indicator.Wilder
import IndicatorScript.Proofs.Number.Guarded

/-!
# The range of the relative strength

The relative strength is the gain's part of the gain and the loss together, in percent (`index_eq`). So it lies between
zero and one hundred, the ends included, and is at an end only where no change that counts went the other way
(`rsi_range`). All its divisors are positive: it comes out the same in numbers that refuse any other (`rsi_number`).
-/

namespace IndicatorScript

open Exact Guarded

namespace Indicator

/-! ## The index of two averages -/

section Index

variable {gain loss : ℝ} (nonneg : 0 ≤ gain) (nonneg' : 0 ≤ loss)

include nonneg nonneg'

theorem index_nonneg : 0 ≤ index gain loss := by
  by_cases none : loss = 0
  · rw [index, if_pos none]
    norm_num
  · rw [index_eq nonneg nonneg' none]
    positivity

theorem index_le : index gain loss ≤ 100 := by
  by_cases none : loss = 0
  · rw [index, if_pos none]
  · have part : gain / (gain + loss) ≤ 1 := div_le_one_of_le₀ (by linarith) (by positivity)
    rw [index_eq nonneg nonneg' none]
    linarith

theorem index_eq_hundred_iff : index gain loss = 100 ↔ loss = 0 := by
  refine ⟨fun hundred => ?_, fun none => if_pos none⟩
  by_contra lost
  have positive : 0 < loss := lt_of_le_of_ne nonneg' (Ne.symm lost)
  have part : gain / (gain + loss) < 1 := (div_lt_one (by positivity)).mpr (by linarith)
  rw [index_eq nonneg nonneg' lost] at hundred
  linarith

theorem index_eq_zero_iff : index gain loss = 0 ↔ gain = 0 ∧ loss ≠ 0 := by
  by_cases none : loss = 0
  · rw [index, if_pos none]
    simp [none]
  · have total : gain + loss ≠ 0 := (add_pos_of_nonneg_of_pos nonneg (lt_of_le_of_ne nonneg' (Ne.symm none))).ne'
    rw [index_eq nonneg nonneg' none, mul_eq_zero, div_eq_zero_iff, or_iff_left total, and_iff_left none]
    norm_num

end Index

/-! ## Averages that are zero -/

section Zero

variable {length : Nat} (positive : 0 < length) {cs : List ℝ} (enough : length ≤ cs.length)

include positive enough

theorem meanRise_eq_zero_iff : meanRise length cs = 0 ↔ ∀ c ∈ counted length cs, c ≤ 0 := by
  rw [meanRise, weighted_eq_zero_iff positive (by rwa [List.length_map]) (by simp), counted_map, List.forall_mem_map]
  exact forall₂_congr fun c _ => max_eq_right_iff

theorem meanFall_eq_zero_iff : meanFall length cs = 0 ↔ ∀ c ∈ counted length cs, 0 ≤ c := by
  rw [meanFall, weighted_eq_zero_iff positive (by rwa [List.length_map]) (by simp), counted_map, List.forall_mem_map]
  exact forall₂_congr fun c _ => max_eq_right_iff.trans neg_nonpos

end Zero

/-! ## Without a division by zero -/

section Guard

variable {length : Nat}

theorem rise_number (change : Exact) : rise (number change) = number (rise change) := by
  simp [rise]

theorem fall_number (change : Exact) : fall (number change) = number (fall change) := by
  simp [fall]

theorem wilder_number (positive : 0 < length) (average x : Exact) :
    wilder length (number average) (number x) = number (wilder length average x) := by
  simp only [wilder, Guarded.ofNat_eq, number_mul, number_add, number_div _ (isDivisor_ofNat positive)]

theorem changes_number (series : List Exact) : changes (series.map number) = (changes series).map number := by
  rw [changes, ← List.map_tail]
  exact zipWith_number _ _ (fun _ _ => rfl) series series.tail

theorem strength_number {known : Prop} {gain loss : Exact} (averages : IsAverages known gain loss) :
    strength (number gain) (number loss) = number (strength gain loss) := by
  rw [strength, strength, isZero_number]
  split
  · rfl
  · next some =>
    obtain ⟨divisor, divisor'⟩ : IsDivisor loss ∧ IsDivisor (Number.ofNat 1 + gain / loss) := by
      -- averages that are known are not negative, so a loss that is not zero is positive
      by_cases defined : known
      · rcases averages.numbers defined with ⟨g, l, nonneg, nonneg', rfl, rfl⟩
        have lost : l ≠ 0 := mt (isZero_value l).mpr some
        have positive : 0 < l := lt_of_le_of_ne nonneg' lost.symm
        refine ⟨isDivisor_value positive, ?_⟩
        rw [value_div _ lost, Exact.ofNat_eq, value_add]
        exact isDivisor_value (by positivity)
      · rcases averages.gaps defined with ⟨rfl, rfl⟩
        exact ⟨isDivisor_undefined, isDivisor_undefined⟩
    simp only [Guarded.ofNat_eq, number_div _ divisor, number_add, number_div _ divisor', number_sub]

theorem strengths_number (positive : 0 < length) {known : Prop} {gain loss : Exact}
    (averages : IsAverages known gain loss) (changes : List Exact) :
    strengths length (number gain) (number loss) (changes.map number) =
      (strengths length gain loss changes).map number := by
  induction changes generalizing known gain loss with
  | nil => rfl
  | cons change rest ih =>
    have next := averages.step positive change
    rw [List.map_cons, strengths, rise_number, fall_number, wilder_number positive, wilder_number positive,
      strength_number next, ih next, strengths, List.map_cons]

theorem rsiFromStart_number (positive : 0 < length) (series : List Exact) :
    rsiFromStart length (series.map number) = (rsiFromStart length series).map number := by
  rw [rsiFromStart, rsiFromStart, List.length_map]
  split
  · rw [List.map_map, List.map_map]
    rfl
  · have averages := IsAverages.first positive ((changes series).take length)
    have means (part : Exact → Exact) (part' : Guarded → Guarded) (same : ∀ e, part' (number e) = number (part e)) :
        Number.sum ((((changes series).take length).map number).map part') / (Number.ofNat length : Guarded) =
          number (Number.sum (((changes series).take length).map part) / Number.ofNat length) := by
      have parts : (((changes series).take length).map number).map part' =
          (((changes series).take length).map part).map number := by
        rw [List.map_map, List.map_map]
        exact List.map_congr_left fun e _ => same e
      rw [parts, sum_number, Guarded.ofNat_eq, number_div _ (isDivisor_ofNat positive)]
    dsimp only
    rw [changes_number, ← List.map_take, ← List.map_drop, means rise rise rise_number, means fall fall fall_number,
      strength_number averages, strengths_number positive averages, List.map_append, List.map_cons, List.map_replicate]
    rfl

theorem rsi_number (positive : 0 < length) (series : List Exact) :
    rsi length (series.map number) = (rsi length series).map number := by
  have gaps : (Number.isNaN ∘ number : Exact → Bool) = Number.isNaN := funext isNaN_number
  rw [rsi, List.takeWhile_map, List.dropWhile_map, gaps, rsiFromStart_number positive, rsi, List.map_append,
    List.map_map, List.map_map]
  rfl

end Guard

end Indicator

open Indicator

/-- The relative strength lies between zero and one hundred. It is one hundred just where no change that counts is
negative, and zero just where none is positive but some is negative; and no division by zero is met on the way. -/
theorem rsi_range {length : Nat} (positive : 0 < length) (series : List Exact) :
    (∀ i r, (rsi length series)[i]? = some (.value r) → 0 ≤ r ∧ r ≤ 100 ∧ ∃ first, BeginsAt series first ∧
      (r = 100 ↔ ∀ c, Counts series length first i c → 0 ≤ c) ∧
      (r = 0 ↔ (∀ c, Counts series length first i c → c ≤ 0) ∧ ∃ c, Counts series length first i c ∧ c < 0)) ∧
    rsi length (series.map number) = (rsi length series).map number := by
  refine ⟨fun i r found => ?_, rsi_number positive series⟩
  rcases exists_changesAt_of_rsi positive found with ⟨first, cs, changes, rfl⟩
  have enough : length ≤ cs.length := by
    have := changes.late
    rw [changes.length_eq]
    omega
  have gain := meanRise_nonneg positive cs
  have loss := meanFall_nonneg positive cs
  refine ⟨index_nonneg gain loss, index_le gain loss, first, changes.begins, ?_, ?_⟩
  · rw [index_eq_hundred_iff gain loss, meanFall_eq_zero_iff positive enough]
    simp only [changes.mem_counted_iff]
  · rw [index_eq_zero_iff gain loss, meanRise_eq_zero_iff positive enough, Ne, meanFall_eq_zero_iff positive enough]
    simp only [changes.mem_counted_iff, not_forall, not_le, exists_prop]

theorem rsi_range_rising : 0 < 2 ∧ (rsi 2 [.value 1, .value 2, .value 4])[2]? = some (Exact.value 100) := by
  have unbroken : UnbrokenAt [.value 1, .value 2, .value 4] 2 2 := by
    refine (unbrokenAt_value 1 [.value 2, .value 4] 2 2).mpr ⟨le_rfl, fun j le => ?_⟩
    obtain rfl | rfl | rfl : j = 0 ∨ j = 1 ∨ j = 2 := by omega
    · exact ⟨1, rfl⟩
    · exact ⟨2, rfl⟩
    · exact ⟨4, rfl⟩
  rcases (rsi_defined two_pos _).defined 2 (by decide) unbroken with ⟨r, found⟩
  rcases (rsi_range (by decide) _).1 2 r found with ⟨-, -, first, -, hundred, -⟩
  have rising : ∀ c, Counts [.value 1, .value 2, .value 4] 2 first 2 c → 0 ≤ c := by
    rintro c ⟨j, x, y, -, before, -, here, next, rfl⟩
    obtain rfl | rfl : j = 0 ∨ j = 1 := by omega
    · obtain ⟨rfl, rfl⟩ : 1 = x ∧ 2 = y := by simpa using And.intro here next
      norm_num
    · obtain ⟨rfl, rfl⟩ : 2 = x ∧ 4 = y := by simpa using And.intro here next
      norm_num
  rw [hundred.mpr rising] at found
  exact ⟨by decide, found⟩

end IndicatorScript
