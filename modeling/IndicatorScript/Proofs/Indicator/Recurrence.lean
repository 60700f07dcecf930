import IndicatorScript.Proofs.Indicator.Defined
import IndicatorScript.Proofs.Number.Guarded

/-!
# Averages as running means

The average at a bar is that of the state in which the bars so far leave the smoothing (`getElem?_smoothFromStart`). In
exact arithmetic that state is an average between the least and the greatest number so far, and a weight that has
decayed since the latest number (`StateAt`). One bar more keeps this (`StateAt.gap`, `StateAt.move`). So the average is
a running mean of the numbers, also across gaps (`ema_isRunningMean`).
-/

namespace IndicatorScript

open Exact

/-! ## The numbers up to a bar -/

/-- The latest bar up to this one at which a series is defined. -/
structure LatestAt (series : List Exact) (i j : Nat) : Prop where
  le : j ≤ i
  known : Known series j
  gap : ∀ k, j < k → k ≤ i → ¬ Known series k

def numbersUpTo (series : List Exact) (i : Nat) : Set ℝ := {x | ∃ j, j ≤ i ∧ series[j]? = some (.value x)}

/-- Between the least and the greatest number of a series up to a bar. -/
def Within (series : List Exact) (i : Nat) (y : ℝ) : Prop :=
  ∃ low high, IsLeast (numbersUpTo series i) low ∧ IsGreatest (numbersUpTo series i) high ∧ low ≤ y ∧ y ≤ high

section Numbers

variable {series : List Exact} {i j : Nat} {x y z : ℝ}

theorem not_known_of_undefined (found : series[i]? = some .undefined) : ¬ Known series i := by
  rintro ⟨x, same⟩
  rw [found] at same
  cases same

theorem begunAt_zero (begun : BegunAt series 0) : BeginsAt series 0 := by
  rcases begun with ⟨j, le, known⟩
  obtain rfl := Nat.le_zero.mp le
  exact ⟨known, fun j before => absurd before (Nat.not_lt_zero j)⟩

theorem begunAt_succ (begun : BegunAt series (i + 1)) : BegunAt series i ∨ BeginsAt series (i + 1) := by
  by_cases earlier : BegunAt series i
  · exact Or.inl earlier
  · have gaps : ∀ j, j < i + 1 → ¬ Known series j := fun j before known =>
      earlier ⟨j, Nat.le_of_lt_succ before, known⟩
    rcases begun with ⟨j, le, known⟩
    rcases Nat.lt_or_eq_of_le le with before | rfl
    · exact absurd known (gaps j before)
    · exact Or.inr ⟨known, gaps⟩

theorem LatestAt.of_known (known : Known series i) : LatestAt series i i :=
  ⟨le_rfl, known, fun _ later le => absurd later (Nat.not_lt_of_le le)⟩

theorem LatestAt.succ (latest : LatestAt series i j) (gap : ¬ Known series (i + 1)) : LatestAt series (i + 1) j := by
  refine ⟨Nat.le_succ_of_le latest.le, latest.known, fun k later le => ?_⟩
  rcases Nat.lt_or_eq_of_le le with before | rfl
  · exact latest.gap k later (Nat.le_of_lt_succ before)
  · exact gap

theorem LatestAt.eq_of_known (latest : LatestAt series i j) (known : Known series i) : j = i := by
  by_contra other
  exact latest.gap i (Nat.lt_of_le_of_ne latest.le other) le_rfl known

theorem numbersUpTo_of_begins (begins : BeginsAt series i) (found : series[i]? = some (.value x)) :
    numbersUpTo series i = {x} := by
  ext y
  constructor
  · rintro ⟨j, le, here⟩
    rcases Nat.lt_or_eq_of_le le with before | rfl
    · exact absurd ⟨y, here⟩ (begins.2 j before)
    · rw [found] at here
      cases here
      rfl
  · rintro rfl
    exact ⟨i, le_rfl, found⟩

theorem numbersUpTo_succ_of_gap (gap : ¬ Known series (i + 1)) : numbersUpTo series (i + 1) = numbersUpTo series i := by
  ext y
  constructor
  · rintro ⟨j, le, here⟩
    rcases Nat.lt_or_eq_of_le le with before | rfl
    · exact ⟨j, Nat.le_of_lt_succ before, here⟩
    · exact absurd ⟨y, here⟩ gap
  · rintro ⟨j, le, here⟩
    exact ⟨j, Nat.le_succ_of_le le, here⟩

theorem numbersUpTo_succ (found : series[i + 1]? = some (.value x)) :
    numbersUpTo series (i + 1) = insert x (numbersUpTo series i) := by
  ext y
  constructor
  · rintro ⟨j, le, here⟩
    rcases Nat.lt_or_eq_of_le le with before | rfl
    · exact Or.inr ⟨j, Nat.le_of_lt_succ before, here⟩
    · rw [found] at here
      cases here
      exact Or.inl rfl
  · rintro (rfl | ⟨j, le, here⟩)
    · exact ⟨i + 1, le_rfl, found⟩
    · exact ⟨j, Nat.le_succ_of_le le, here⟩

theorem within_of_begins (begins : BeginsAt series i) (found : series[i]? = some (.value x)) : Within series i x := by
  rw [Within, numbersUpTo_of_begins begins found]
  exact ⟨x, x, isLeast_singleton, isGreatest_singleton, le_rfl, le_rfl⟩

theorem Within.move (within : Within series i y) (found : series[i + 1]? = some (.value x))
    (between : z ∈ Set.uIcc y x) : Within series (i + 1) z := by
  rcases within with ⟨low, high, least, greatest, above, below⟩
  rw [Within, numbersUpTo_succ found]
  refine ⟨min x low, max x high, least.insert x, greatest.insert x, ?_, ?_⟩
  · exact le_trans (le_min (min_le_of_right_le above) (min_le_left x low)) between.1
  · exact le_trans between.2 (max_le (le_max_of_le_right below) (le_max_left x high))

end Numbers

namespace Indicator

/-! ## The state after a bar -/

section State

variable {α : Type} [Number α]

/-- The state one bar later, also while a series has not begun. -/
def next? (smoothing : Smoothing α) : Option (Smoothed α) → α → Option (Smoothed α)
  | some state, x => some (state.step smoothing x)
  | none, x => if Number.isFinite x then some ⟨x, Number.ofNat 1⟩ else none

def stateAfter (smoothing : Smoothing α) (series : List α) (bars : Nat) : Option (Smoothed α) :=
  (series.take bars).foldl (next? smoothing) none

theorem stateAfter_succ (smoothing : Smoothing α) {series : List α} {bars : Nat} {x : α}
    (found : series[bars]? = some x) :
    stateAfter smoothing series (bars + 1) = next? smoothing (stateAfter smoothing series bars) x := by
  rw [stateAfter, List.take_add_one, found, Option.toList_some, List.foldl_append]
  rfl

theorem foldl_next? (smoothing : Smoothing α) (state : Smoothed α) (series : List α) :
    series.foldl (next? smoothing) (some state) = some (series.foldl (Smoothed.step smoothing) state) := by
  induction series generalizing state with
  | nil => rfl
  | cons x rest ih => exact ih (state.step smoothing x)

theorem getElem?_smooth (smoothing : Smoothing α) (state : Smoothed α) {series : List α} {i : Nat}
    (inside : i < series.length) :
    (smooth smoothing state series)[i]? =
      some ((series.take (i + 1)).foldl (Smoothed.step smoothing) state).average := by
  induction series generalizing state i with
  | nil => cases inside
  | cons x rest ih =>
    cases i with
    | zero => rfl
    | succ i => exact ih (state.step smoothing x) (Nat.lt_of_succ_lt_succ inside)

theorem getElem?_smoothFromStart {smoothing : Smoothing α} {series : List α} {i : Nat} {state : Smoothed α}
    (inside : i < series.length) (after : stateAfter smoothing series (i + 1) = some state) :
    (smoothFromStart smoothing series)[i]? = some state.average := by
  induction series generalizing i with
  | nil => cases inside
  | cons x rest ih =>
    rw [stateAfter, List.take_succ_cons, List.foldl_cons] at after
    rw [smoothFromStart]
    by_cases finite : Number.isFinite x = true
    · have begun : next? smoothing none x = some ⟨x, Number.ofNat 1⟩ := if_pos finite
      rw [begun, foldl_next?] at after
      cases after
      rw [if_pos finite]
      cases i with
      | zero => rfl
      | succ i => exact getElem?_smooth smoothing _ (Nat.lt_of_succ_lt_succ inside)
    · have waiting : next? smoothing none x = none := if_neg finite
      rw [waiting] at after
      rw [if_neg finite]
      cases i with
      | zero => cases after
      | succ i => exact ih (Nat.lt_of_succ_lt_succ inside) after

end State

theorem stateAfter_of_gaps (smoothing : Smoothing Exact) {series : List Exact} {bars : Nat}
    (gaps : ∀ j, j < bars → ¬ Known series j) (le : bars ≤ series.length) :
    stateAfter smoothing series bars = none := by
  induction bars with
  | zero => rfl
  | succ bars ih =>
    have found := List.getElem?_eq_getElem le
    cases same : series[bars] with
    | undefined =>
      have before := ih (fun j before => gaps j (Nat.lt_succ_of_lt before)) (Nat.le_of_succ_le le)
      rw [same] at found
      rw [stateAfter_succ smoothing found, before]
      rfl
    | value x => exact absurd ⟨x, same ▸ found⟩ (gaps bars (Nat.lt_succ_self bars))

/-! ## The mean of an average and a new value -/

theorem mean_mem_uIcc {weight share : ℝ} (nonneg : 0 ≤ weight) (positive : 0 < share) (y x : ℝ) :
    (weight * y + share * x) / (weight + share) ∈ Set.uIcc y x := by
  have inside := convex_iff_div.mp (convex_uIcc y x) Set.left_mem_uIcc Set.right_mem_uIcc nonneg positive.le
    (add_pos_of_nonneg_of_pos nonneg positive)
  have same : (weight / (weight + share)) • y + (share / (weight + share)) • x =
      (weight * y + share * x) / (weight + share) := by
    rw [smul_eq_mul, smul_eq_mul]
    ring
  rwa [same] at inside

/-- A new value `x` moves an average `y` of some weight, a part `factor` of which it loses first, to their mean `z`. The
share of the value is the factor, or at length three what is missing from the weight to one. -/
structure Moves (length : Nat) (factor weight y x z : ℝ) : Prop where
  nonneg : 0 ≤ decayed factor weight
  divisor : 0 < decayed factor weight + factor
  divisor' : 0 < decayed factor weight + (Smoothing.ofLength length).share factor weight
  mean : z = (decayed factor weight * y + (Smoothing.ofLength length).share factor weight * x) /
    (decayed factor weight + (Smoothing.ofLength length).share factor weight)
  between : z ∈ Set.uIcc y x

/-- The average and its weight after a bar, where the latest number was met at bar `j`. -/
structure StateAt (length : Nat) (factor : ℝ) (series : List Exact) (i j : Nat) (y : ℝ) : Prop where
  latest : LatestAt series i j
  state : stateAfter (.ofLength length) series (i + 1) = some ⟨.value y, .value ((1 - factor) ^ (i - j))⟩
  within : Within series i y

section Steps

variable {length : Nat} {factor : ℝ} {series : List Exact} {i j : Nat} {x y : ℝ}

theorem StateAt.of_begins (begins : BeginsAt series i) (found : series[i]? = some (.value x)) :
    StateAt length factor series i i x where
  latest := .of_known begins.1
  state := by
    have inside : i < series.length := (List.getElem?_eq_some_iff.mp found).1
    rw [stateAfter_succ _ found, stateAfter_of_gaps _ begins.2 inside.le, Nat.sub_self, pow_zero]
    simp [next?]
  within := within_of_begins begins found

variable (has : (Smoothing.ofLength length).Has factor)

include has

theorem weight_nonneg (n : Nat) : 0 ≤ (1 - factor) ^ n := pow_nonneg (sub_nonneg.mpr has.le_one) n

theorem weight_le_one (n : Nat) : (1 - factor) ^ n ≤ 1 :=
  pow_le_one₀ (sub_nonneg.mpr has.le_one) (by linarith [has.positive])

theorem moves (n : Nat) (y x : ℝ) : ∃ z, Moves length factor ((1 - factor) ^ n) y x z := by
  have nonneg := Smoothed.decayed_nonneg has (weight_nonneg has n)
  have share := Smoothed.share_pos has (weight_le_one has n)
  exact ⟨_, nonneg, add_pos_of_nonneg_of_pos nonneg has.positive, add_pos_of_nonneg_of_pos nonneg share, rfl,
    mean_mem_uIcc nonneg share y x⟩

namespace StateAt

theorem gap (atBar : StateAt length factor series i j y) (found : series[i + 1]? = some .undefined) :
    StateAt length factor series (i + 1) j y where
  latest := atBar.latest.succ (not_known_of_undefined found)
  state := by
    have later : i + 1 - j = i - j + 1 := Nat.succ_sub atBar.latest.le
    rw [stateAfter_succ _ found, atBar.state, next?, Smoothed.step_undefined has, decayed, later, pow_succ]
  within := by
    rw [Within, numbersUpTo_succ_of_gap (not_known_of_undefined found)]
    exact atBar.within

theorem move (atBar : StateAt length factor series i j y) (found : series[i + 1]? = some (.value x)) :
    ∃ z, Moves length factor ((1 - factor) ^ (i - j)) y x z ∧ StateAt length factor series (i + 1) (i + 1) z := by
  rcases moves has (i - j) y x with ⟨z, moves⟩
  refine ⟨z, moves, .of_known ⟨x, found⟩, ?_, atBar.within.move found moves.between⟩
  have nonneg := weight_nonneg has (i - j)
  have le_one := weight_le_one has (i - j)
  rw [stateAfter_succ _ found, atBar.state, next?, Smoothed.step_value has _ nonneg le_one, ← moves.mean,
    Nat.sub_self, pow_zero]

end StateAt

theorem exists_stateAt (begun : BegunAt series i) (inside : i < series.length) :
    ∃ j y, StateAt length factor series i j y := by
  have first {i : Nat} (begins : BeginsAt series i) : ∃ j y, StateAt length factor series i j y := by
    rcases begins.1 with ⟨x, found⟩
    exact ⟨i, x, .of_begins begins found⟩
  -- the bar at which the series begins starts the invariant, and each later one keeps it
  induction i with
  | zero => exact first (begunAt_zero begun)
  | succ i ih =>
    rcases begunAt_succ begun with earlier | begins
    · rcases ih earlier (Nat.lt_of_succ_lt inside) with ⟨j, y, atBar⟩
      have found := List.getElem?_eq_getElem inside
      cases same : series[i + 1] with
      | undefined => exact ⟨j, y, atBar.gap has (same ▸ found)⟩
      | value x =>
        rcases atBar.move has (same ▸ found) with ⟨z, -, next⟩
        exact ⟨i + 1, z, next⟩
    · exact first begins

end Steps

/-! ## Without a division by zero -/

section Guard

open Guarded

def Smoothing.guarded (smoothing : Smoothing Exact) : Smoothing Guarded := ⟨number smoothing.factor, smoothing.balanced⟩

def Smoothed.guarded (state : Smoothed Exact) : Smoothed Guarded := ⟨number state.average, number state.weight⟩

theorem ofLength_guarded (length : Nat) :
    (Smoothing.ofLength length : Smoothing Guarded) = (Smoothing.ofLength length).guarded := by
  have centre : (0 : ℝ) < 1 + ((length - 1 : Nat) : ℝ) / 2 := by positivity
  have divisor : IsDivisor (Number.ofNat 1 + Number.ofNat (length - 1) / Number.ofNat 2) := by
    simp only [Exact.ofNat_eq, Nat.cast_one, Nat.cast_ofNat, value_div _ two_ne_zero, value_add]
    exact isDivisor_value centre
  have factor : (smoothingFactor length : Guarded) = number (smoothingFactor length) := by
    simp only [smoothingFactor, Guarded.ofNat_eq, number_div _ (isDivisor_ofNat two_pos), number_add,
      number_div _ divisor]
  rw [Smoothing.ofLength, factor]
  rfl

variable {smoothing : Smoothing Exact} {factor : ℝ} (has : smoothing.Has factor)

include has

theorem step_guarded {y weight : ℝ} (nonneg : 0 ≤ weight) (le_one : weight ≤ 1) (e : Exact) :
    Smoothed.step smoothing.guarded (Smoothed.guarded ⟨.value y, .value weight⟩) (number e) =
      (Smoothed.step smoothing ⟨.value y, .value weight⟩ e).guarded := by
  have left : number (.value weight) * (Number.ofNat 1 - smoothing.guarded.factor) =
      number (.value (decayed factor weight)) := congrArg number (Smoothed.weight_eq has)
  have share : (if smoothing.guarded.balanced then Number.ofNat 1 - number (.value (decayed factor weight))
      else smoothing.guarded.factor) = number (.value (smoothing.share factor weight)) := by
    rw [← Smoothed.share_eq has, Smoothed.weight_eq has, apply_ite number]
    rfl
  have divisor := isDivisor_value (Smoothed.divisor_pos has nonneg le_one)
  rw [Smoothed.step, Smoothed.step]
  dsimp only [Smoothed.guarded]
  rw [left, share, Smoothed.share_eq has, Smoothed.weight_eq has]
  simp only [isFinite_number, equal_number, number_mul, number_add, value_add, number_div _ divisor]
  split
  · split <;> rfl
  · rfl

theorem smooth_guarded {y weight : ℝ} (nonneg : 0 ≤ weight) (le_one : weight ≤ 1) (series : List Exact) :
    smooth smoothing.guarded (Smoothed.guarded ⟨.value y, .value weight⟩) (series.map number) =
      (smooth smoothing ⟨.value y, .value weight⟩ series).map number := by
  induction series generalizing y weight with
  | nil => rfl
  | cons e rest ih =>
    rw [List.map_cons, smooth, smooth, step_guarded has nonneg le_one, List.map_cons]
    congr 1
    cases e with
    | undefined =>
      rw [Smoothed.step_undefined has]
      exact ih (Smoothed.decayed_nonneg has nonneg) ((Smoothed.decayed_le has nonneg).trans le_one)
    | value x =>
      rw [Smoothed.step_value has y nonneg le_one]
      exact ih zero_le_one le_rfl

omit has in
theorem ema_number {length : Nat} (positive : 0 < length) (series : List Exact) :
    ema length (series.map number) = (ema length series).map number := by
  have has := Smoothing.ofLength_has positive
  rw [ema, ema, ofLength_guarded]
  induction series with
  | nil => rfl
  | cons e rest ih =>
    cases e with
    | undefined => exact congrArg (number .undefined :: ·) ih
    | value x =>
      have further := smooth_guarded has (y := x) zero_le_one le_rfl rest
      have finite : Number.isFinite (number (.value x)) = true := isFinite_number _
      rw [List.map_cons, smoothFromStart, smoothFromStart, if_pos finite, if_pos (isFinite_value x), List.map_cons,
        Exact.ofNat_eq, Nat.cast_one, ← further, Smoothed.guarded, Guarded.ofNat_eq, Exact.ofNat_eq, Nat.cast_one]

end Guard

/-! ## Running means -/

/-- With its full weight an average is moved by the smoothing factor. -/
theorem Moves.eq_of_full {length : Nat} {factor y x z : ℝ} (moves : Moves length factor 1 y x z) :
    z = factor * x + (1 - factor) * y := by
  have left : decayed factor 1 = 1 - factor := one_mul _
  have share : (Smoothing.ofLength length).share factor 1 = factor := by
    rw [Smoothing.share, left, sub_sub_cancel, ite_self]
  rw [moves.mean, left, share, sub_add_cancel, div_one, add_comm]

/-- What is averaged with this smoothing factor: the first number is its own average, a gap repeats the average, and a
number moves it to a mean with what is left of its weight, which is the full weight if the number follows another. -/
structure IsRunningMean (length : Nat) (factor : ℝ) (series output : List Exact) : Prop where
  begins : ∀ i x, BeginsAt series i → series[i]? = some (.value x) → output[i]? = some (.value x)
  repeats : ∀ i, BegunAt series i → series[i + 1]? = some .undefined →
    ∃ y, output[i]? = some (.value y) ∧ output[i + 1]? = some (.value y)
  moves : ∀ i x, BegunAt series i → series[i + 1]? = some (.value x) → ∃ j y z, LatestAt series i j ∧
    output[i]? = some (.value y) ∧ output[i + 1]? = some (.value z) ∧ Moves length factor ((1 - factor) ^ (i - j)) y x z
  follows : ∀ i x, Known series i → series[i + 1]? = some (.value x) →
    ∃ y, output[i]? = some (.value y) ∧ output[i + 1]? = some (.value (factor * x + (1 - factor) * y))
  within : ∀ i y, output[i]? = some (.value y) → Within series i y

theorem StateAt.output {length : Nat} {factor : ℝ} {series : List Exact} {i j : Nat} {y : ℝ}
    (inside : i < series.length) (atBar : StateAt length factor series i j y) :
    (ema length series)[i]? = some (.value y) :=
  getElem?_smoothFromStart inside atBar.state

end Indicator

open Indicator

/-- The average of a series is a running mean with the factor `2 / (length + 1)`, and no division by zero is met on the
way to it. -/
theorem ema_isRunningMean {length : Nat} (positive : 0 < length) (series : List Exact) :
    IsRunningMean length (2 / (length + 1)) series (ema length series) ∧
      ema length (series.map Guarded.number) = (ema length series).map Guarded.number := by
  have has := Smoothing.ofLength_has positive
  have moved {i : Nat} {x : ℝ} (begun : BegunAt series i) (found : series[i + 1]? = some (.value x)) :
      ∃ j y z, LatestAt series i j ∧ (ema length series)[i]? = some (.value y) ∧
        (ema length series)[i + 1]? = some (.value z) ∧
        Moves length (2 / (length + 1)) ((1 - 2 / (length + 1)) ^ (i - j)) y x z := by
    have inside : i + 1 < series.length := (List.getElem?_eq_some_iff.mp found).1
    rcases exists_stateAt has begun (Nat.lt_of_succ_lt inside) with ⟨j, y, atBar⟩
    rcases atBar.move has found with ⟨z, moves, next⟩
    exact ⟨j, y, z, atBar.latest, atBar.output (Nat.lt_of_succ_lt inside), next.output inside, moves⟩
  refine ⟨⟨?begins, ?repeats, fun i x => moved, ?follows, ?within⟩, ema_number positive series⟩
  case begins =>
    intro i x begins found
    have atBar : StateAt length (2 / (length + 1)) series i i x := .of_begins begins found
    exact atBar.output (List.getElem?_eq_some_iff.mp found).1
  case repeats =>
    intro i begun found
    have inside : i + 1 < series.length := (List.getElem?_eq_some_iff.mp found).1
    rcases exists_stateAt has begun (Nat.lt_of_succ_lt inside) with ⟨j, y, atBar⟩
    exact ⟨y, atBar.output (Nat.lt_of_succ_lt inside), (atBar.gap has found).output inside⟩
  case follows =>
    intro i x known found
    rcases moved ⟨i, le_rfl, known⟩ found with ⟨j, y, z, latest, before, after, moves⟩
    obtain rfl := latest.eq_of_known known
    rw [Nat.sub_self, pow_zero] at moves
    exact ⟨y, before, moves.eq_of_full ▸ after⟩
  case within =>
    intro i y found
    have inside : i < series.length := length_ema length series ▸ (List.getElem?_eq_some_iff.mp found).1
    have begun := ((ema_defined positive series).known_iff inside).mp ⟨y, found⟩
    rcases exists_stateAt has begun inside with ⟨j, y', atBar⟩
    obtain rfl : y' = y := by simpa using (atBar.output inside).symm.trans found
    exact atBar.within

theorem ema_isRunningMean_gap :
    0 < 2 ∧ (ema 2 [.value 1, .undefined, .value 4])[2]? = some (Exact.value (25 / 7)) := by
  have mean := (ema_isRunningMean (show 0 < 2 by decide) [.value 1, .undefined, .value 4]).1
  have begun (i : Nat) : BegunAt [.value 1, .undefined, .value 4] i := begunAt_zero_value 1 _ i
  have first := mean.begins 0 1 (beginsAt_zero_value 1 _) rfl
  rcases mean.repeats 0 (begun 0) rfl with ⟨y, same, second⟩
  rcases mean.moves 1 4 (begun 1) rfl with ⟨j, y', z, latest, same', third, moves⟩
  obtain rfl : 1 = y := by simpa using first.symm.trans same
  obtain rfl : 1 = y' := by simpa using second.symm.trans same'
  obtain rfl : j = 0 := by
    by_contra later
    obtain rfl : j = 1 := by
      have := latest.le
      omega
    exact not_known_of_undefined rfl latest.known
  have share : (Smoothing.ofLength 2 : Smoothing Exact).balanced = false := rfl
  have value : z = 25 / 7 := by
    rw [moves.mean, Smoothing.share, share]
    norm_num [decayed]
  exact ⟨by decide, value ▸ third⟩

end IndicatorScript
