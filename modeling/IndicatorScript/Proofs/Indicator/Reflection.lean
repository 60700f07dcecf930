import IndicatorScript.Proofs.Indicator.Wilder

/-!
# The relative strength of a series that is scaled and shifted

A series that is scaled has its changes scaled by the same factor, and a shift does not change them
(`ChangesAt.affine`). A positive factor scales gains and losses alike, which leaves the index as it is. A negative one
also turns gains into losses, so the index is mirrored (`index_swap`), except where there are neither (`rsi_affine`).
-/

namespace IndicatorScript

open Exact

/-- The series with each value scaled by `a` and then shifted by `b`. -/
noncomputable def affine (a b : ℝ) (series : List Exact) : List Exact := series.map fun e => .value a * e + .value b

section Affine

variable (a b : ℝ) (series : List Exact)

@[simp] theorem length_affine : (affine a b series).length = series.length := List.length_map _

theorem known_affine (j : Nat) : Known (affine a b series) j ↔ Known series j := by
  rw [Known, affine, List.getElem?_map, Known]
  rcases series[j]? with _ | _ | x <;> simp

theorem beginsAt_affine (first : Nat) : BeginsAt (affine a b series) first ↔ BeginsAt series first := by
  simp only [BeginsAt, known_affine]

theorem unbrokenAt_affine (length i : Nat) :
    UnbrokenAt (affine a b series) length i ↔ UnbrokenAt series length i := by
  simp only [UnbrokenAt, known_affine]

theorem sub_affine (e e' : Exact) :
    value a * e + value b - (value a * e' + value b) = value a * (e - e') := by
  cases e with
  | undefined => simp
  | value x =>
    cases e' with
    | undefined => simp
    | value y =>
      simp only [value_mul, value_add, value_sub]
      congr 1
      ring

end Affine

namespace Indicator

theorem changes_affine (a b : ℝ) (series : List Exact) :
    changes (affine a b series) = (changes series).map (value a * ·) := by
  rw [changes, affine, ← List.map_tail, List.zipWith_map, changes, List.map_zipWith]
  simp only [sub_affine]

theorem ChangesAt.affine {series : List Exact} {length first i : Nat} {cs : List ℝ}
    (atBar : ChangesAt series length first i cs) (a b : ℝ) :
    ChangesAt (affine a b series) length first i (cs.map (a * ·)) where
  begins := (beginsAt_affine a b series first).mpr atBar.begins
  late := atBar.late
  inside := (length_affine a b series).symm ▸ atBar.inside
  same := by
    have dropped : (IndicatorScript.affine a b series).drop first = IndicatorScript.affine a b (series.drop first) :=
      List.map_drop.symm
    have same := atBar.same
    rw [changesBetween] at same
    rw [changesBetween, dropped, changes_affine, ← List.map_take, same, List.map_map, List.map_map]
    rfl

/-! ## Scaled averages -/

theorem weighted_scaled {a factor : ℝ} {part part' : ℝ → ℝ} (same : ∀ c, part (a * c) = factor * part' c) (length : Nat)
    (cs : List ℝ) : weighted length ((cs.map (a * ·)).map part) = factor * weighted length (cs.map part') := by
  rw [← weighted_map_mul, List.map_map, List.map_map]
  exact congrArg (weighted length) (List.map_congr_left fun c _ => same c)

section Means

variable (length : Nat) {a : ℝ} (cs : List ℝ)

theorem meanRise_of_pos (scaled : 0 < a) : meanRise length (cs.map (a * ·)) = a * meanRise length cs :=
  weighted_scaled (fun c => by rw [mul_max_of_nonneg _ _ scaled.le, mul_zero]) length cs

theorem meanFall_of_pos (scaled : 0 < a) : meanFall length (cs.map (a * ·)) = a * meanFall length cs :=
  weighted_scaled (fun c => by rw [mul_max_of_nonneg _ _ scaled.le, mul_zero, mul_neg]) length cs

theorem meanRise_of_neg (reflected : a < 0) : meanRise length (cs.map (a * ·)) = -a * meanFall length cs :=
  weighted_scaled (fun c => by rw [mul_max_of_nonneg _ _ (neg_pos.mpr reflected).le, mul_zero, neg_mul_neg]) length cs

theorem meanFall_of_neg (reflected : a < 0) : meanFall length (cs.map (a * ·)) = -a * meanRise length cs :=
  weighted_scaled (fun c => by rw [mul_max_of_nonneg _ _ (neg_pos.mpr reflected).le, mul_zero, neg_mul]) length cs

end Means

theorem index_mul {factor : ℝ} (nonzero : factor ≠ 0) (gain loss : ℝ) :
    index (factor * gain) (factor * loss) = index gain loss := by
  have none : factor * loss = 0 ↔ loss = 0 := by simp [nonzero]
  simp only [index, none, mul_div_mul_left _ _ nonzero]

theorem index_swap {gain loss : ℝ} (nonneg : 0 ≤ gain) (nonneg' : 0 ≤ loss) (some : ¬ (gain = 0 ∧ loss = 0)) :
    index loss gain = 100 - index gain loss := by
  by_cases none : loss = 0
  · have gained : gain ≠ 0 := fun none' => some ⟨none', none⟩
    simp [index, none, gained]
  by_cases none' : gain = 0
  · simp [index, none, none']
  · have total : gain + loss ≠ 0 := by positivity
    rw [index_eq nonneg nonneg' none, index_eq nonneg' nonneg none', add_comm loss]
    field_simp
    ring

/-! ## Both series at a bar -/

/-- The average gain and the average loss that a series has at a bar. -/
def AveragesAt (length : Nat) (series : List Exact) (i : Nat) (gain loss : ℝ) : Prop :=
  ∃ first, BeginsAt series first ∧ gainAt length first i series = .value gain ∧
    lossAt length first i series = .value loss

namespace ChangesAt

variable {length : Nat} (positive : 0 < length) {series : List Exact} {first i : Nat} {cs : List ℝ}
  (atBar : ChangesAt series length first i cs) {a : ℝ} (b : ℝ)

include positive atBar

theorem rsi_affine_of_pos (scaled : 0 < a) :
    (rsi length (IndicatorScript.affine a b series))[i]? = (rsi length series)[i]? := by
  rw [(atBar.affine a b).rsi_eq positive, atBar.rsi_eq positive, meanRise_of_pos length cs scaled,
    meanFall_of_pos length cs scaled, index_mul scaled.ne']

theorem rsi_affine_of_neg (reflected : a < 0) :
    (rsi length (IndicatorScript.affine a b series))[i]? =
      some (value (index (meanFall length cs) (meanRise length cs))) := by
  rw [(atBar.affine a b).rsi_eq positive, meanRise_of_neg length cs reflected, meanFall_of_neg length cs reflected,
    index_mul (neg_pos.mpr reflected).ne']

end ChangesAt

theorem known_rsi_affine {length : Nat} (positive : 0 < length) (a b : ℝ) (series : List Exact) (i : Nat) :
    Known (rsi length (affine a b series)) i ↔ Known (rsi length series) i := by
  by_cases inside : i < series.length
  · rw [(rsi_defined positive _).known_iff (by rwa [length_affine]), (rsi_defined positive _).known_iff inside,
      unbrokenAt_affine]
  · simp [Known, inside]

theorem getElem?_eq_of_not_known {series : List Exact} {i : Nat} (gap : ¬ Known series i) :
    series[i]? = if i < series.length then some .undefined else none := by
  split
  · next inside =>
    have found := List.getElem?_eq_getElem inside
    cases same : series[i] with
    | undefined => rw [found, same]
    | value x => exact absurd ⟨x, by rw [found, same]⟩ gap
  · next outside => exact List.getElem?_eq_none (Nat.le_of_not_lt outside)

end Indicator

open Indicator

/-- A series that is scaled by a positive factor and shifted has the same relative strength. Scaled by a negative factor
it has what is missing from the relative strength to one hundred, except where there is neither gain nor loss. -/
theorem rsi_affine {length : Nat} (positive : 0 < length) (series : List Exact) (a b : ℝ) :
    (0 < a → rsi length (affine a b series) = rsi length series) ∧
    (a < 0 → ∀ i, (Known (rsi length (affine a b series)) i ↔ Known (rsi length series) i) ∧
      ∀ r, (rsi length series)[i]? = some (.value r) → ∃ gain loss, AveragesAt length series i gain loss ∧
        (gain = 0 ∧ loss = 0 → r = 100 ∧ (rsi length (affine a b series))[i]? = some (.value 100)) ∧
        (¬ (gain = 0 ∧ loss = 0) → (rsi length (affine a b series))[i]? = some (.value (100 - r)))) := by
  have known := known_rsi_affine positive a b series
  refine ⟨fun scaled => List.ext_getElem? fun i => ?_, fun reflected i => ⟨known i, fun r found => ?_⟩⟩
  · by_cases defined : Known (rsi length series) i
    · rcases defined with ⟨r, found⟩
      rcases exists_changesAt_of_rsi positive found with ⟨first, cs, atBar, -⟩
      exact atBar.rsi_affine_of_pos positive b scaled
    · rw [getElem?_eq_of_not_known defined, getElem?_eq_of_not_known (mt (known i).mp defined), length_rsi, length_rsi,
        length_affine]
  · rcases exists_changesAt_of_rsi positive found with ⟨first, cs, atBar, rfl⟩
    refine ⟨_, _, ⟨first, atBar.begins, atBar.gainAt_eq positive, atBar.lossAt_eq positive⟩, ?_, fun some => ?_⟩
    · rintro ⟨none, none'⟩
      rw [atBar.rsi_affine_of_neg positive b reflected, none, none', index, if_pos rfl]
      exact ⟨rfl, rfl⟩
    · rw [atBar.rsi_affine_of_neg positive b reflected,
        index_swap (meanRise_nonneg positive cs) (meanFall_nonneg positive cs) some]

theorem rsi_affine_turning :
    0 < 2 ∧ (0 : ℝ) < 3 ∧ (-1 : ℝ) < 0 ∧
      rsi 2 (affine 3 5 [.value 1, .value 3, .value 2]) = rsi 2 [.value 1, .value 3, .value 2] ∧
      (rsi 2 [.value 1, .value 3, .value 2])[2]? = some (Exact.value (200 / 3)) ∧
      (rsi 2 (affine (-1) 5 [.value 1, .value 3, .value 2]))[2]? = some (Exact.value (100 / 3)) := by
  have atBar : ChangesAt [.value 1, .value 3, .value 2] 2 0 2 [2, -1] := by
    refine ⟨beginsAt_zero_value 1 _, le_rfl, by decide, ?_⟩
    norm_num [changesBetween, changes]
  have rise : meanRise 2 [2, -1] = 1 := by norm_num [meanRise, weighted]
  have fall : meanFall 2 [2, -1] = 1 / 2 := by norm_num [meanFall, weighted]
  have found := atBar.rsi_eq two_pos
  have strong : index 1 (1 / 2) = 200 / 3 := by norm_num [index]
  rw [rise, fall, strong] at found
  have whole := rsi_affine (show 0 < 2 by decide) [.value 1, .value 3, .value 2]
  refine ⟨by decide, by norm_num, by norm_num, (whole 3 5).1 (by norm_num), found, ?_⟩
  rcases ((whole (-1) 5).2 (by norm_num) 2).2 _ found with ⟨gain, loss, ⟨first, begins, gained, -⟩, -, mirrored⟩
  obtain rfl := begins.eq_zero
  have some : ¬ (gain = 0 ∧ loss = 0) := by
    rw [atBar.gainAt_eq two_pos, rise] at gained
    cases gained
    norm_num
  rw [mirrored some]
  norm_num

end IndicatorScript
