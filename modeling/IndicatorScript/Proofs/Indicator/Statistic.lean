import IndicatorScript.Proofs.Indicator.Window

/-!
# Statistics of windows

In exact arithmetic a mean that is kept up to date is the mean of the window, and a deviation the deviation (`sma_eq`,
`stdev_eq`). Nothing is lost to rounding, so what is kept against it is zero all the time. Greatest and least values are
values of the window.
-/

namespace IndicatorScript.Indicator

open Exact

noncomputable def mean (xs : List ℝ) : ℝ := xs.sum / xs.length

/-- The sum of the squared distances from the mean. -/
noncomputable def spread (xs : List ℝ) : ℝ := (xs.map fun x => (x - mean xs) ^ 2).sum

noncomputable def deviation (xs : List ℝ) : ℝ := √(spread xs / xs.length)

theorem spread_nonneg (xs : List ℝ) : 0 ≤ spread xs := by
  refine List.sum_nonneg fun y mem => ?_
  rcases List.mem_map.mp mem with ⟨x, -, rfl⟩
  exact sq_nonneg _

theorem sum_eq_length_mul_mean (xs : List ℝ) : xs.sum = xs.length * mean xs := by
  cases xs with
  | nil => simp
  | cons x xs =>
    have nonzero : ((x :: xs).length : ℝ) ≠ 0 := Nat.cast_ne_zero.mpr (Nat.succ_ne_zero _)
    rw [mean, mul_div_cancel₀ _ nonzero]

theorem spread_eq (xs : List ℝ) : spread xs = (xs.map (· ^ 2)).sum - xs.length * mean xs ^ 2 := by
  have around (m : ℝ) (xs : List ℝ) :
      (xs.map fun x => (x - m) ^ 2).sum = (xs.map (· ^ 2)).sum - 2 * m * xs.sum + xs.length * m ^ 2 := by
    induction xs with
    | nil => simp
    | cons x xs ih =>
      simp only [List.map_cons, List.sum_cons, List.length_cons, ih, Nat.cast_add, Nat.cast_one]
      ring
  rw [spread, around, sum_eq_length_mul_mean xs]
  ring

theorem mean_of_flat {x : ℝ} {xs : List ℝ} (nonempty : xs ≠ []) (equal : ∀ y ∈ xs, y = x) : mean xs = x := by
  have positive : (xs.length : ℝ) ≠ 0 := Nat.cast_ne_zero.mpr (List.length_pos_iff.mpr nonempty).ne'
  rw [mean, List.sum_eq_card_nsmul xs x equal, nsmul_eq_mul, mul_div_cancel_left₀ _ positive]

theorem spread_of_flat {x : ℝ} {xs : List ℝ} (nonempty : xs ≠ []) (equal : ∀ y ∈ xs, y = x) : spread xs = 0 := by
  refine List.sum_eq_zero fun z mem => ?_
  rcases List.mem_map.mp mem with ⟨y, inside, rfl⟩
  rw [mean_of_flat nonempty equal, equal y inside, sub_self, zero_pow two_ne_zero]

/-! ## A value more or less -/

theorem mean_cons (x : ℝ) (xs : List ℝ) : mean (x :: xs) = mean xs + (x - mean xs) / (xs.length + 1) := by
  have nonzero : (xs.length + 1 : ℝ) ≠ 0 := Nat.cast_add_one_ne_zero _
  have whole := sum_eq_length_mul_mean xs
  rw [mean, List.sum_cons, whole, List.length_cons, Nat.cast_add, Nat.cast_one]
  field_simp
  ring

theorem spread_cons (x : ℝ) (xs : List ℝ) :
    spread (x :: xs) = spread xs + (x - mean xs) * (x - mean (x :: xs)) := by
  have nonzero : (xs.length + 1 : ℝ) ≠ 0 := Nat.cast_add_one_ne_zero _
  rw [spread_eq, spread_eq, mean_cons, List.map_cons, List.sum_cons, List.length_cons, Nat.cast_add, Nat.cast_one]
  field_simp
  ring

theorem mean_of_cons (x : ℝ) {xs : List ℝ} (nonempty : xs ≠ []) :
    mean xs = mean (x :: xs) - (x - mean (x :: xs)) / xs.length := by
  have positive : (xs.length : ℝ) ≠ 0 := Nat.cast_ne_zero.mpr (List.length_pos_iff.mpr nonempty).ne'
  have more : (xs.length + 1 : ℝ) ≠ 0 := Nat.cast_add_one_ne_zero _
  rw [mean_cons]
  field_simp
  ring

theorem mean_append_singleton (xs : List ℝ) (x : ℝ) : mean (xs ++ [x]) = mean (x :: xs) := by
  simp [mean, add_comm]

theorem spread_append_singleton (xs : List ℝ) (x : ℝ) : spread (xs ++ [x]) = spread (x :: xs) := by
  rw [spread, spread, mean_append_singleton]
  simp [add_comm]

/-! ## Runs of equal values -/

namespace Repeats

/-- The run at the end of these values, the newest first. -/
noncomputable def ofReals (xs : List ℝ) : Repeats Exact := xs.foldr (fun x run => run.enter (.value x)) .start

theorem take_ofReals (x : ℝ) (xs : List ℝ) : ∀ y ∈ (x :: xs).take (ofReals (x :: xs)).count, y = x := by
  have single {count : Nat} (one : count = 1) : ∀ y ∈ (x :: xs).take count, y = x := by
    subst one
    simp
  induction xs generalizing x with
  | nil =>
    exact single (show (if Number.equal (Exact.value x) Exact.undefined then 0 + 1 else 1) = 1 by simp)
  | cons y ys ih =>
    have count : (ofReals (x :: y :: ys)).count =
        if Number.equal (Exact.value x) (Exact.value y) then (ofReals (y :: ys)).count + 1 else 1 := rfl
    rw [count]
    by_cases same : x = y
    · subst same
      rw [if_pos ((equal_value x x).mpr rfl), List.take_succ_cons]
      intro z mem
      rcases List.mem_cons.mp mem with rfl | mem
      · rfl
      · exact ih x (fun one => by subst one; simp) z mem
    · rw [if_neg fun equal => same ((equal_value x y).mp equal)]
      exact single rfl

/-- The run ends values that begin with those of the window. -/
def Fits (xs : List ℝ) (repeats : Repeats Exact) : Prop := ∃ earlier, repeats = ofReals (xs ++ earlier)

namespace Fits

variable {xs : List ℝ} {repeats : Repeats Exact}

theorem enter (fits : Fits xs repeats) (x : ℝ) : Fits (x :: xs) (repeats.enter (.value x)) := by
  rcases fits with ⟨earlier, rfl⟩
  exact ⟨earlier, rfl⟩

theorem leave {oldest : ℝ} (fits : Fits (xs ++ [oldest]) repeats) : Fits xs repeats := by
  rcases fits with ⟨earlier, rfl⟩
  exact ⟨oldest :: earlier, by rw [List.append_assoc, List.singleton_append]⟩

theorem flat {x : ℝ} (fits : Fits (x :: xs) repeats) :
    repeats.value = .value x ∧ ((x :: xs).length ≤ repeats.count → ∀ y ∈ x :: xs, y = x) := by
  rcases fits with ⟨earlier, rfl⟩
  refine ⟨rfl, fun many y mem => take_ofReals x (xs ++ earlier) y ?_⟩
  refine List.take_subset_take_left _ many ?_
  rw [← List.cons_append, List.take_left]
  exact mem

end Fits

end Repeats

/-! ## The mean -/

structure RunningSum.Fits (xs : List ℝ) (state : RunningSum Exact) : Prop where
  sum : state.sum = .value xs.sum
  gained : state.gained = .value 0
  lost : state.lost = .value 0
  count : state.count = xs.length
  signed : state.signed = xs.countP (· < 0)
  repeats : state.repeats.Fits xs

theorem compensatedAdd_exact (sum x : ℝ) :
    compensatedAdd (value sum) (value 0) (value x) = ⟨value (sum + x), value 0⟩ := by
  simp [compensatedAdd]

theorem toNat_isSigned (x : ℝ) (xs : List ℝ) :
    xs.countP (· < 0) + (Number.isSigned (value x)).toNat = (x :: xs).countP (· < 0) := by
  by_cases negative : x < 0
  · rw [(isSigned_value x).mpr negative, List.countP_cons_of_pos (by simpa using negative)]
    rfl
  · rw [Bool.eq_false_iff.mpr (mt (isSigned_value x).mp negative), List.countP_cons_of_neg (by simpa using negative)]
    rfl

theorem RunningSum.keeps_fits : Running.mean.Keeps fun window => RunningSum.Fits (reals window) := by
  refine .ofReals ?_ ?_ ?_ fun state => ⟨rfl, rfl⟩
  · exact ⟨by simp [Running.mean, RunningSum.start], by simp [Running.mean, RunningSum.start],
      by simp [Running.mean, RunningSum.start], rfl, rfl, [], rfl⟩
  · rintro xs ⟨_, _, _, _, _, repeats⟩ x ⟨rfl, rfl, rfl, rfl, rfl, run⟩
    have entered : Running.mean.enter ⟨.value xs.sum, .value 0, .value 0, xs.length, xs.countP (· < 0), repeats⟩
        (.value x) = ⟨.value (xs.sum + x), .value 0, .value 0, xs.length + 1,
          xs.countP (· < 0) + (Number.isSigned (Exact.value x)).toNat, repeats.enter (.value x)⟩ := by
      simp [Running.mean, RunningSum.enter, compensatedAdd_exact]
    rw [entered]
    exact ⟨by rw [List.sum_cons, add_comm], rfl, rfl, rfl, toNat_isSigned x xs, run.enter x⟩
  · rintro xs ⟨_, _, _, _, _, repeats⟩ x ⟨rfl, rfl, rfl, rfl, rfl, run⟩
    have left : Running.mean.leave ⟨.value (xs ++ [x]).sum, .value 0, .value 0, (xs ++ [x]).length,
        (xs ++ [x]).countP (· < 0), repeats⟩ (.value x) = ⟨.value xs.sum, .value 0, .value 0, xs.length,
          (xs ++ [x]).countP (· < 0) - (Number.isSigned (Exact.value x)).toNat, repeats⟩ := by
      simp [Running.mean, RunningSum.leave, compensatedAdd_exact]
    rw [left]
    refine ⟨rfl, rfl, rfl, rfl, ?_, run.leave⟩
    have signed := toNat_isSigned x xs
    have same : (xs ++ [x]).countP (· < 0) = (x :: xs).countP (· < 0) :=
      List.Perm.countP_eq _ (List.perm_append_singleton x xs)
    dsimp only
    omega

theorem RunningSum.mean_exact {xs : List ℝ} {state : RunningSum Exact} (nonempty : xs ≠ [])
    (fits : state.Fits xs) : state.mean = .value (Indicator.mean xs) := by
  have positive : (0 : ℝ) < xs.length := Nat.cast_pos.mpr (List.length_pos_iff.mpr nonempty)
  have quotient : state.sum / Number.ofNat state.count = .value (Indicator.mean xs) := by
    rw [fits.sum, fits.count, ofNat_eq, value_div _ positive.ne']
    rfl
  have sum := fits.sum
  rw [RunningSum.mean, quotient, fits.signed, fits.count]
  simp only [ofNat_eq, Nat.cast_zero, less_value]
  split
  · next flat =>
    obtain ⟨x, rest, rfl⟩ := List.exists_cons_of_ne_nil nonempty
    rcases fits.repeats.flat with ⟨newest, equal⟩
    rw [newest, mean_of_flat nonempty (equal flat)]
  split
  · next none =>
    -- no value is below zero, so the mean is not
    have nonneg : ∀ x ∈ xs, 0 ≤ x := fun x mem =>
      not_lt.mp fun negative => List.countP_eq_zero.mp none.1 x mem (decide_eq_true negative)
    exact absurd none.2 (not_lt.mpr (div_nonneg (List.sum_nonneg nonneg) positive.le))
  split
  · next all =>
    have negative : ∀ x ∈ xs, x ≤ 0 := fun x mem =>
      (of_decide_eq_true (List.countP_eq_length.mp all.1 x mem)).le
    have nonpos : xs.sum ≤ 0 := (List.sum_le_card_nsmul xs 0 negative).trans_eq (smul_zero _)
    exact absurd all.2 (not_lt.mpr (div_nonpos_of_nonpos_of_nonneg nonpos positive.le))
  · rfl

theorem sma_eq {length : Nat} (positive : 0 < length) (series : List Exact) :
    sma length series = rolling length (fun window => .value (mean (reals window))) series :=
  RunningSum.keeps_fits.running_eq (fun _ _ nonempty fits => RunningSum.mean_exact nonempty fits) positive series

/-! ## The deviation -/

structure RunningSpread.Fits (xs : List ℝ) (state : RunningSpread Exact) : Prop where
  mean : state.mean = .value (Indicator.mean xs)
  squares : state.squares = .value (spread xs)
  gained : state.gained = .value 0
  lost : state.lost = .value 0
  count : state.count = xs.length
  repeats : state.repeats.Fits xs

theorem distance_exact (mean x : ℝ) :
    RunningSpread.distance (value mean) (value 0) (value x) = ⟨value (x - mean), value 0⟩ := by
  simp [RunningSpread.distance]

theorem RunningSpread.keeps_fits : Running.deviation.Keeps fun window => RunningSpread.Fits (reals window) := by
  refine .ofReals ?_ ?_ ?_ fun state => ⟨rfl, rfl⟩
  · constructor
    all_goals simp [Running.deviation, RunningSpread.start, Indicator.mean, spread]
    exact ⟨[], rfl⟩
  · rintro xs ⟨_, _, _, _, _, worn, repeats⟩ x ⟨rfl, rfl, rfl, rfl, rfl, run⟩
    have positive : (xs.length + 1 : ℝ) ≠ 0 := Nat.cast_add_one_ne_zero _
    have entered : Running.deviation.enter ⟨.value (Indicator.mean xs), .value (spread xs), .value 0, .value 0,
        xs.length, worn, repeats⟩ (.value x) = ⟨.value (Indicator.mean (x :: xs)), .value (spread (x :: xs)), .value 0,
          .value 0, xs.length + 1, worn, repeats.enter (.value x)⟩ := by
      simp [Running.deviation, RunningSpread.enter, distance_exact, value_div _ positive, mean_cons, spread_cons]
    rw [entered]
    exact ⟨rfl, rfl, rfl, rfl, rfl, run.enter x⟩
  · rintro xs ⟨_, _, _, _, _, worn, repeats⟩ x ⟨rfl, rfl, rfl, rfl, rfl, run⟩
    rw [mean_append_singleton, spread_append_singleton, List.length_append, List.length_singleton]
    cases xs with
    | nil =>
      have left : Running.deviation.leave ⟨.value (Indicator.mean [x]), .value (spread [x]), .value 0, .value 0, 1,
          worn, repeats⟩ (.value x) = ⟨.value 0, .value 0, .value 0, .value 0, 0, worn, repeats⟩ := by
        simp [Running.deviation, RunningSpread.leave]
      rw [List.length_nil, left]
      exact ⟨by simp [Indicator.mean], by simp [spread], rfl, rfl, rfl, run.leave⟩
    | cons y ys =>
      have nonempty : y :: ys ≠ [] := List.cons_ne_nil y ys
      have positive : ((y :: ys).length : ℝ) ≠ 0 := Nat.cast_ne_zero.mpr (Nat.succ_ne_zero _)
      generalize y :: ys = xs at nonempty positive run ⊢
      have many : ¬ xs.length + 1 ≤ 1 := by
        have := List.length_pos_iff.mpr nonempty
        omega
      have squares : spread (x :: xs) - (x - Indicator.mean (x :: xs)) * (x - Indicator.mean xs) = spread xs := by
        rw [spread_cons]
        ring
      have left : ∃ worn', Running.deviation.leave ⟨.value (Indicator.mean (x :: xs)), .value (spread (x :: xs)),
          .value 0, .value 0, xs.length + 1, worn, repeats⟩ (.value x) =
          ⟨.value (Indicator.mean xs), .value (spread xs), .value 0, .value 0, xs.length, worn', repeats⟩ := by
        simp [Running.deviation, RunningSpread.leave, many, distance_exact, value_div _ positive,
          ← mean_of_cons x nonempty, squares]
      rcases left with ⟨worn', left⟩
      rw [left]
      exact ⟨rfl, rfl, rfl, rfl, rfl, run.leave⟩

theorem RunningSpread.deviation_exact {xs : List ℝ} {state : RunningSpread Exact} (nonempty : xs ≠ [])
    (fits : state.Fits xs) : state.deviation = .value (Indicator.deviation xs) := by
  obtain ⟨x, rest, rfl⟩ := List.exists_cons_of_ne_nil nonempty
  have positive : (0 : ℝ) < (x :: rest).length := Nat.cast_pos.mpr (Nat.succ_pos _)
  have variance : state.squares / Number.ofNat state.count =
      .value (spread (x :: rest) / (x :: rest).length) := by
    rw [fits.squares, fits.count, ofNat_eq, value_div _ positive.ne']
  have nonneg : 0 ≤ spread (x :: rest) / (x :: rest).length := div_nonneg (spread_nonneg _) positive.le
  rw [RunningSpread.deviation, variance, fits.count]
  simp only [ofNat_eq, Nat.cast_zero, less_value]
  split
  · next flat =>
    -- one value, or as many equal ones as there are, have no spread
    have equal : ∀ y ∈ x :: rest, y = x := by
      rcases flat with single | many
      · obtain rfl : rest = [] := List.length_eq_zero_iff.mp (Nat.succ.inj single)
        simp
      · exact fits.repeats.flat.2 many
    rw [Indicator.deviation, spread_of_flat nonempty equal, zero_div, Real.sqrt_zero]
  · rw [if_neg (not_lt.mpr nonneg), sqrt_value nonneg]
    rfl

theorem stdev_eq {length : Nat} (positive : 0 < length) (series : List Exact) :
    stdev length series = rolling length (fun window => .value (deviation (reals window))) series :=
  RunningSpread.keeps_fits.running_eq (fun _ _ nonempty fits => RunningSpread.deviation_exact nonempty fits) positive
    series

/-! ## Extremes -/

/-- The first value, exchanged for each further one that is more extreme. -/
theorem extreme_exact {op : Exact → Exact → Exact} {f : ℝ → ℝ → ℝ} (r : ℝ → ℝ → Prop) [IsPreorder ℝ r]
    (exact_op : ∀ x y, op (value x) (value y) = value (f x y)) (either : ∀ x y, f x y = x ∨ f x y = y)
    (left : ∀ x y, r x (f x y)) (right : ∀ x y, r y (f x y)) (x : ℝ) (rest : List ℝ) :
    ∃ m ∈ x :: rest, (rest.map value).foldl op (value x) = value m ∧ ∀ y ∈ x :: rest, r y m := by
  induction rest generalizing x with
  | nil => exact ⟨x, List.mem_singleton_self x, rfl, by simp [refl_of r x]⟩
  | cons z rest ih =>
    rcases ih (f x z) with ⟨m, mem, same, extreme⟩
    rw [List.map_cons, List.foldl_cons, exact_op, same]
    refine ⟨m, ?_, rfl, fun y mem => ?_⟩
    · rcases List.mem_cons.mp mem with rfl | mem
      · rcases either x z with same | same <;> rw [same] <;> simp
      · exact List.mem_cons_of_mem x (List.mem_cons_of_mem z mem)
    · have first := extreme (f x z) List.mem_cons_self
      rcases List.mem_cons.mp mem with rfl | mem
      · exact trans_of r (left y z) first
      rcases List.mem_cons.mp mem with rfl | mem
      · exact trans_of r (right x y) first
      · exact extreme y (List.mem_cons_of_mem _ mem)

theorem greatest_exact {xs : List ℝ} (nonempty : xs ≠ []) :
    ∃ m ∈ xs, greatest (xs.map value) = value m ∧ ∀ y ∈ xs, y ≤ m := by
  obtain ⟨x, rest, reversed⟩ := List.exists_cons_of_ne_nil (List.reverse_ne_nil_iff.mpr nonempty)
  have extreme := extreme_exact (· ≤ ·) max_value max_choice le_max_left le_max_right x rest
  rw [greatest, ← List.map_reverse, reversed, List.map_cons]
  simpa only [← reversed, List.mem_reverse] using extreme

theorem least_exact {xs : List ℝ} (nonempty : xs ≠ []) :
    ∃ m ∈ xs, least (xs.map value) = value m ∧ ∀ y ∈ xs, m ≤ y := by
  obtain ⟨x, rest, reversed⟩ := List.exists_cons_of_ne_nil (List.reverse_ne_nil_iff.mpr nonempty)
  have extreme := extreme_exact (· ≥ ·) min_value min_choice min_le_left min_le_right x rest
  rw [least, ← List.map_reverse, reversed, List.map_cons]
  simpa only [← reversed, List.mem_reverse] using extreme

end IndicatorScript.Indicator
