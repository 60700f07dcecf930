import IndicatorScript.Proofs.Indicator.Average
import IndicatorScript.Proofs.Indicator.Length
import IndicatorScript.Proofs.Indicator.Statistic
import IndicatorScript.Proofs.Indicator.Strength

/-!
# Where indicators are defined

In exact arithmetic each indicator is defined at exactly the bars where its inputs allow it (`apply_defined`): a
statistic of a window where the window is full and has no gap, an average from the first defined input on, and the
relative strength once the average of its first changes is there, as long as no gap was met.
-/

namespace IndicatorScript

open Exact

def Known (series : List Exact) (i : Nat) : Prop := ∃ x, series[i]? = some (.value x)

@[simp] theorem known_succ (e : Exact) (series : List Exact) (i : Nat) :
    Known (e :: series) (i + 1) ↔ Known series i := Iff.rfl

@[simp] theorem known_zero_value (x : ℝ) (series : List Exact) : Known (.value x :: series) 0 := ⟨x, rfl⟩

@[simp] theorem not_known_zero_undefined (series : List Exact) : ¬ Known (.undefined :: series) 0 := by
  rintro ⟨x, same⟩
  cases same

/-- A series with one value for each bar, which is a number just where the condition holds and undefined elsewhere. -/
structure DefinedExactly (output : List Exact) (bars : Nat) (p : Nat → Prop) : Prop where
  length : output.length = bars
  defined : ∀ i, i < bars → p i → Known output i
  undefined : ∀ i, i < bars → ¬ p i → output[i]? = some .undefined

namespace DefinedExactly

variable {output more : List Exact} {bars : Nat} {p q : Nat → Prop}

theorem of_iff (length : output.length = bars) (known : ∀ i, i < bars → (Known output i ↔ p i)) :
    DefinedExactly output bars p := by
  refine ⟨length, fun i inside => (known i inside).mpr, fun i inside fails => ?_⟩
  obtain ⟨e, found⟩ : ∃ e, output[i]? = some e := ⟨_, List.getElem?_eq_getElem (length.symm ▸ inside)⟩
  cases e with
  | undefined => exact found
  | value x => exact absurd ((known i inside).mp ⟨x, found⟩) fails

theorem known_iff (exactly : DefinedExactly output bars p) {i : Nat} (inside : i < bars) : Known output i ↔ p i := by
  refine ⟨fun known => ?_, exactly.defined i inside⟩
  by_contra fails
  rcases known with ⟨x, same⟩
  rw [exactly.undefined i inside fails] at same
  cases same

theorem congr (exactly : DefinedExactly output bars p) (same : ∀ i, i < bars → (p i ↔ q i)) :
    DefinedExactly output bars q :=
  .of_iff exactly.length fun i inside => (exactly.known_iff inside).trans (same i inside)

theorem cons {e : Exact} (first : (∃ x, e = .value x) ↔ p 0) (exactly : DefinedExactly output bars fun i => p (i + 1)) :
    DefinedExactly (e :: output) (bars + 1) p := by
  refine .of_iff (congrArg Nat.succ exactly.length) fun i inside => ?_
  cases i with
  | zero =>
    rw [← first]
    simp [Known]
  | succ i => exact exactly.known_iff (Nat.lt_of_succ_lt_succ inside)

theorem of_values (values : ∀ e ∈ output, ∃ x, e = Exact.value x) (length : output.length = bars) (all : ∀ i, p i) :
    DefinedExactly output bars p := by
  refine .of_iff length fun i inside => ⟨fun _ => all i, fun _ => ?_⟩
  rcases values _ (List.getElem_mem (length.symm ▸ inside)) with ⟨x, same⟩
  exact ⟨x, by rw [List.getElem?_eq_getElem (length.symm ▸ inside), same]⟩

theorem replicate_append (exactly : DefinedExactly output bars p) (waiting : Nat) :
    DefinedExactly (List.replicate waiting .undefined ++ output) (waiting + bars)
      fun i => waiting ≤ i ∧ p (i - waiting) := by
  refine .of_iff (by rw [List.length_append, List.length_replicate, exactly.length]) fun i inside => ?_
  by_cases early : i < waiting
  · have found : (List.replicate waiting Exact.undefined ++ output)[i]? = some .undefined := by
      rw [List.getElem?_append_left (by rwa [List.length_replicate]), List.getElem?_replicate, if_pos early]
    simp [Known, found, early]
  · have found : (List.replicate waiting Exact.undefined ++ output)[i]? = output[i - waiting]? := by
      rw [List.getElem?_append_right (by rw [List.length_replicate]; omega), List.length_replicate]
    have further := exactly.known_iff (show i - waiting < bars by omega)
    rw [Known] at further
    rw [Known, found, further]
    exact ⟨fun holds => ⟨Nat.le_of_not_lt early, holds⟩, And.right⟩

theorem map_mul (exactly : DefinedExactly output bars p) (multiple : ℝ) :
    DefinedExactly (output.map (· * .value multiple)) bars p := by
  refine .of_iff (by rw [List.length_map, exactly.length]) fun i inside => ?_
  rw [← exactly.known_iff inside, Known, Known, List.getElem?_map]
  rcases output[i]? with _ | e
  · simp
  · cases e <;> simp

theorem zipWith {op : Exact → Exact → Exact} (values : ∀ x y, ∃ z, op (.value x) (.value y) = .value z)
    (gap : op .undefined .undefined = .undefined) (exactly : DefinedExactly output bars p)
    (exactly' : DefinedExactly more bars p) : DefinedExactly (List.zipWith op output more) bars p := by
  refine ⟨by rw [List.length_zipWith, exactly.length, exactly'.length, Nat.min_self], fun i inside holds => ?_,
    fun i inside fails => ?_⟩
  · rcases exactly.defined i inside holds with ⟨x, same⟩
    rcases exactly'.defined i inside holds with ⟨y, same'⟩
    rcases values x y with ⟨z, result⟩
    refine ⟨z, ?_⟩
    rw [List.getElem?_zipWith, same, same']
    exact congrArg some result
  · rw [List.getElem?_zipWith, exactly.undefined i inside fails, exactly'.undefined i inside fails]
    exact congrArg some gap

end DefinedExactly

/-! ## Conditions -/

/-- The window of so many bars that ends here is full and has no gap. -/
def FullAt (series : List Exact) (length i : Nat) : Prop :=
  length ≤ i + 1 ∧ ∀ j, i < j + length → j ≤ i → Known series j

def BegunAt (series : List Exact) (i : Nat) : Prop := ∃ j, j ≤ i ∧ Known series j

def BeginsAt (series : List Exact) (first : Nat) : Prop := Known series first ∧ ∀ j, j < first → ¬ Known series j

theorem beginsAt_zero_value (x : ℝ) (rest : List Exact) : BeginsAt (.value x :: rest) 0 :=
  ⟨known_zero_value x rest, fun j early => absurd early (Nat.not_lt_zero j)⟩

theorem BeginsAt.eq_zero {x : ℝ} {rest : List Exact} {first : Nat} (begins : BeginsAt (.value x :: rest) first) :
    first = 0 :=
  Nat.eq_zero_of_not_pos fun later => begins.2 0 later (known_zero_value x rest)

/-- The series began at least so many bars before and has no gap since. -/
def UnbrokenAt (series : List Exact) (length i : Nat) : Prop :=
  ∃ first, Known series first ∧ (∀ j, j < first → ¬ Known series j) ∧ first + length ≤ i ∧
    ∀ j, first ≤ j → j ≤ i → Known series j

namespace Indicator

/-! ## Windows -/

theorem finiteAt_iff {series : List Exact} {i : Nat} : FiniteAt series i ↔ Known series i := by
  constructor
  · rintro ⟨e, found, finite⟩
    cases e with
    | undefined => cases finite
    | value x => exact ⟨x, found⟩
  · rintro ⟨x, found⟩
    exact ⟨value x, found, isFinite_value x⟩

theorem completeAt_iff {series : List Exact} {length i : Nat} :
    CompleteAt series length i ↔ FullAt series length i := by
  simp only [CompleteAt, FullAt, finiteAt_iff]

/-- A full window with these numbers, the newest first. -/
structure WindowAt (series : List Exact) (length i : Nat) (xs : List ℝ) : Prop where
  inside : i < series.length
  same : (series.take (i + 1)).reverse.take length = xs.map value
  full : xs.length = length

theorem lt_length_of_fullAt {length : Nat} (positive : 0 < length) {series : List Exact} {i : Nat}
    (full : FullAt series length i) : i < series.length :=
  lt_length_of_completeAt positive (completeAt_iff.mpr full)

theorem exists_windowAt {length : Nat} (positive : 0 < length) {series : List Exact} {i : Nat}
    (full : FullAt series length i) : ∃ xs, WindowAt series length i xs := by
  have inside := lt_length_of_fullAt positive full
  rcases isComplete_iff.mp ((isComplete_window positive inside).mpr (completeAt_iff.mpr full)) with ⟨-, xs, same, count⟩
  exact ⟨xs, inside, same, count⟩

namespace WindowAt

variable {series : List Exact} {length i : Nat} {xs : List ℝ} (window : WindowAt series length i xs)

include window

theorem le_succ : length ≤ i + 1 := by
  have count := congrArg List.length window.same
  have full := window.full
  simp only [List.length_take, List.length_reverse, List.length_map] at count
  omega

theorem ne_nil (positive : 0 < length) : xs ≠ [] :=
  List.ne_nil_of_length_pos (window.full.symm ▸ positive)

theorem getElem?_eq (k : Nat) (x : ℝ) :
    xs[k]? = some x ↔ k < length ∧ series[i - k]? = some (value x) := by
  have late := window.le_succ
  have moved : xs[k]? = some x ↔ (xs.map value)[k]? = some (value x) := by
    rw [List.getElem?_map]
    simp
  rw [moved, ← window.same]
  by_cases within : k < length
  · rw [getElem?_window window.inside length k (by omega), if_pos within, and_iff_right within]
  · rw [List.getElem?_take, if_neg within]
    simp [within]

theorem getElem?_rolling (positive : 0 < length) (statistic : List Exact → Exact) :
    (rolling length statistic series)[i]? = some (statistic (xs.map value)) := by
  have found := getElem?_histories [] series window.inside
  have complete : isComplete length (series.take (i + 1)).reverse = true :=
    isComplete_iff.mpr ⟨positive, xs, window.same, window.full⟩
  rw [List.append_nil] at found
  rw [rolling, List.getElem?_map, found, Option.map_some, overWindow, if_pos complete, window.same]

end WindowAt

theorem fullAt_of_rolling {length : Nat} (positive : 0 < length) {statistic : List Exact → Exact} {series : List Exact}
    {i : Nat} {m : ℝ} (found : (rolling length statistic series)[i]? = some (value m)) : FullAt series length i := by
  have inside : i < series.length := length_rolling length statistic series ▸ (List.getElem?_eq_some_iff.mp found).1
  refine completeAt_iff.mp (by_contra fun incomplete => ?_)
  rw [getElem?_rolling_of_not_completeAt positive statistic inside incomplete] at found
  cases found

theorem rolling_defined {length : Nat} (positive : 0 < length) {statistic : List Exact → Exact}
    (values : ∀ xs : List ℝ, xs ≠ [] → ∃ x, statistic (xs.map .value) = .value x) (series : List Exact) :
    DefinedExactly (rolling length statistic series) series.length (FullAt series length) := by
  refine .of_iff (length_rolling length statistic series) fun i _ =>
    ⟨fun ⟨m, found⟩ => fullAt_of_rolling positive found, fun full => ?_⟩
  rcases exists_windowAt positive full with ⟨xs, window⟩
  rcases values xs (window.ne_nil positive) with ⟨x, same⟩
  exact ⟨x, by rw [window.getElem?_rolling positive, same]⟩

theorem sma_defined {length : Nat} (positive : 0 < length) (series : List Exact) :
    DefinedExactly (sma length series) series.length (FullAt series length) := by
  rw [sma_eq positive]
  exact rolling_defined positive (fun _ _ => ⟨_, rfl⟩) series

theorem stdev_defined {length : Nat} (positive : 0 < length) (series : List Exact) :
    DefinedExactly (stdev length series) series.length (FullAt series length) := by
  rw [stdev_eq positive]
  exact rolling_defined positive (fun _ _ => ⟨_, rfl⟩) series

theorem highest_defined {length : Nat} (positive : 0 < length) (series : List Exact) :
    DefinedExactly (highest length series) series.length (FullAt series length) :=
  rolling_defined positive (fun _ nonempty => (greatest_exact nonempty).imp fun _ spec => spec.2.1) series

theorem lowest_defined {length : Nat} (positive : 0 < length) (series : List Exact) :
    DefinedExactly (lowest length series) series.length (FullAt series length) :=
  rolling_defined positive (fun _ nonempty => (least_exact nonempty).imp fun _ spec => spec.2.1) series

/-! ## Averages -/

theorem begunAt_zero_value (x : ℝ) (rest : List Exact) (i : Nat) : BegunAt (.value x :: rest) i :=
  ⟨0, Nat.zero_le i, known_zero_value x rest⟩

theorem begunAt_undefined_succ {rest : List Exact} {i : Nat} :
    BegunAt (.undefined :: rest) (i + 1) ↔ BegunAt rest i := by
  constructor
  · rintro ⟨j, le, known⟩
    cases j with
    | zero => exact absurd known (not_known_zero_undefined rest)
    | succ j => exact ⟨j, Nat.le_of_succ_le_succ le, known⟩
  · rintro ⟨j, le, known⟩
    exact ⟨j + 1, Nat.succ_le_succ le, known⟩

theorem not_begunAt_undefined_zero (rest : List Exact) : ¬ BegunAt (.undefined :: rest) 0 := by
  rintro ⟨j, le, known⟩
  obtain rfl := Nat.le_zero.mp le
  exact not_known_zero_undefined rest known

theorem ema_defined {length : Nat} (positive : 0 < length) (series : List Exact) :
    DefinedExactly (ema length series) series.length (BegunAt series) := by
  have has := Smoothing.ofLength_has positive
  rw [ema]
  induction series with
  | nil => exact .of_iff rfl fun i inside => absurd inside (Nat.not_lt_zero i)
  | cons e rest ih =>
    cases e with
    | undefined =>
      have waiting : smoothFromStart (.ofLength length) (.undefined :: rest) =
          .undefined :: smoothFromStart (.ofLength length) rest := rfl
      rw [waiting]
      refine .cons ?_ (ih.congr fun i _ => begunAt_undefined_succ.symm)
      simp [not_begunAt_undefined_zero]
    | value x =>
      have begun : smoothFromStart (.ofLength length) (.value x :: rest) =
          .value x :: smooth (.ofLength length) ⟨.value x, .value 1⟩ rest := by
        simp [smoothFromStart]
      have values := Smoothed.smooth_values has x zero_le_one le_rfl rest
      rw [begun]
      refine .of_values ?_ (by simp) (begunAt_zero_value x rest)
      intro e mem
      rcases List.mem_cons.mp mem with rfl | mem
      · exact ⟨x, rfl⟩
      · exact values e mem

theorem sub_values (x y : ℝ) : ∃ z, Exact.value x - .value y = .value z := ⟨x - y, rfl⟩

theorem macdLine_defined {fast slow : Nat} (positive : 0 < fast) (positive' : 0 < slow) (series : List Exact) :
    DefinedExactly (macdLine fast slow series) series.length (BegunAt series) :=
  .zipWith sub_values rfl (ema_defined positive series) (ema_defined positive' series)

theorem macdSignal_defined {fast slow signal : Nat} (positive : 0 < fast) (positive' : 0 < slow)
    (positive'' : 0 < signal) (series : List Exact) :
    DefinedExactly (macdSignal fast slow signal series) series.length (BegunAt series) := by
  have line := macdLine_defined positive positive' series
  have signals := ema_defined positive'' (macdLine fast slow series)
  rw [line.length] at signals
  refine signals.congr fun i inside => ?_
  -- the line has begun as soon as the series has
  constructor
  · rintro ⟨j, le, known⟩
    rcases (line.known_iff (Nat.lt_of_le_of_lt le inside)).mp known with ⟨k, le', known⟩
    exact ⟨k, Nat.le_trans le' le, known⟩
  · intro begun
    exact ⟨i, Nat.le_refl i, line.defined i inside begun⟩

theorem macdHistogram_defined {fast slow signal : Nat} (positive : 0 < fast) (positive' : 0 < slow)
    (positive'' : 0 < signal) (series : List Exact) :
    DefinedExactly (macdHistogram fast slow signal series) series.length (BegunAt series) :=
  .zipWith sub_values rfl (macdLine_defined positive positive' series)
    (macdSignal_defined positive positive' positive'' series)

/-! ## Relative strength -/

theorem known_changes (series : List Exact) (j : Nat) :
    Known (changes series) j ↔ Known series j ∧ Known series (j + 1) := by
  rw [Known, changes, List.getElem?_zipWith, List.getElem?_tail, Known, Known]
  rcases series[j]? with _ | _ | x <;> rcases series[j + 1]? with _ | _ | y <;> simp

theorem known_changes_iff (series : List Exact) {i : Nat} (positive : 0 < i) :
    (∀ j, j < i → Known (changes series) j) ↔ ∀ j, j ≤ i → Known series j := by
  simp only [known_changes]
  constructor
  · intro known j le
    rcases Nat.lt_or_eq_of_le le with less | rfl
    · exact (known j less).1
    · obtain ⟨j, rfl⟩ := Nat.exists_eq_succ_of_ne_zero positive.ne'
      exact (known j (Nat.lt_succ_self j)).2
  · exact fun known j less => ⟨known j less.le, known (j + 1) less⟩

theorem strengths_defined {length : Nat} (positive : 0 < length) {known : Prop} {gain loss : Exact}
    (averages : IsAverages known gain loss) (series : List Exact) :
    DefinedExactly (strengths length gain loss series) series.length
      fun i => known ∧ ∀ j, j ≤ i → Known series j := by
  induction series generalizing known gain loss with
  | nil => exact .of_iff rfl fun i inside => absurd inside (Nat.not_lt_zero i)
  | cons change rest ih =>
    have next := averages.step positive change
    have here : Known (change :: rest) 0 ↔ ∃ x, change = .value x := by simp [Known]
    rw [strengths]
    refine .cons ?_ ((ih next).congr fun i _ => ?_)
    · rw [next.strength_iff, ← here]
      exact and_congr_right fun _ => ⟨fun known j le => Nat.le_zero.mp le ▸ known, fun known => known 0 le_rfl⟩
    · rw [and_assoc, ← here]
      refine and_congr_right fun _ => ⟨?_, fun known => ⟨known 0 (Nat.zero_le _), fun j le => ?_⟩⟩
      · rintro ⟨first, further⟩ j le
        cases j with
        | zero => exact first
        | succ j => exact further j (Nat.le_of_succ_le_succ le)
      · exact known (j + 1) (Nat.succ_le_succ le)

theorem not_mem_take_iff {series : List Exact} {length : Nat} (le : length ≤ series.length) :
    .undefined ∉ series.take length ↔ ∀ j, j < length → Known series j := by
  constructor
  · intro defined j less
    have here := List.getElem?_eq_getElem (show j < series.length by omega)
    have found : (series.take length)[j]? = some series[j] := by rw [List.getElem?_take, if_pos less, here]
    cases same : series[j] with
    | undefined => exact absurd (same ▸ List.mem_of_getElem? found) defined
    | value x => exact ⟨x, by rw [here, same]⟩
  · intro known mem
    rcases List.mem_iff_getElem?.mp mem with ⟨j, found⟩
    have less : j < length := by
      have inside := (List.getElem?_eq_some_iff.mp found).1
      rw [List.length_take] at inside
      omega
    rw [List.getElem?_take, if_pos less] at found
    rcases known j less with ⟨x, same⟩
    rw [found] at same
    cases same

theorem rsiFromStart_defined {length : Nat} (positive : 0 < length) (series : List Exact) :
    DefinedExactly (rsiFromStart length series) series.length
      fun i => length ≤ i ∧ ∀ j, j ≤ i → Known series j := by
  by_cases few : series.length ≤ length
  · rw [rsiFromStart, if_pos few]
    refine .of_iff (List.length_map _) fun i inside => ?_
    have waiting : ¬ length ≤ i := by omega
    simp [Known, waiting, inside]
  have count : (changes series).length = series.length - 1 := by simp [changes]
  rw [rsiFromStart, if_neg few]
  dsimp only
  have averages := IsAverages.first positive ((changes series).take length)
  rw [not_mem_take_iff (by omega)] at averages
  generalize Number.sum (((changes series).take length).map rise) / Number.ofNat length = gain at averages ⊢
  generalize Number.sum (((changes series).take length).map fall) / Number.ofNat length = loss at averages ⊢
  have begun : DefinedExactly (strength gain loss :: strengths length gain loss ((changes series).drop length))
      (((changes series).drop length).length + 1) fun k => ∀ j, j < length + k → Known (changes series) j := by
    refine .cons averages.strength_iff ((strengths_defined positive averages ((changes series).drop length)).congr
      fun k _ => ⟨fun known j less => ?_, fun known => ⟨fun j less => known j (by omega), fun j le => ?_⟩⟩)
    · rcases Nat.lt_or_ge j length with early | late
      · exact known.1 j early
      · have further := known.2 (j - length) (by omega)
        rwa [Known, List.getElem?_drop, Nat.add_sub_cancel' late] at further
    · rw [Known, List.getElem?_drop]
      exact known (length + j) (by omega)
  have bars : length + (((changes series).drop length).length + 1) = series.length := by
    rw [List.length_drop]
    omega
  have whole := begun.replicate_append length
  rw [bars] at whole
  refine whole.congr fun i _ => and_congr_right fun le => ?_
  rw [Nat.add_sub_cancel' le]
  exact known_changes_iff series (Nat.lt_of_lt_of_le positive le)

theorem unbrokenAt_value (x : ℝ) (rest : List Exact) (length i : Nat) :
    UnbrokenAt (.value x :: rest) length i ↔ length ≤ i ∧ ∀ j, j ≤ i → Known (.value x :: rest) j := by
  constructor
  · rintro ⟨first, -, gaps, late, known⟩
    obtain rfl : first = 0 := Nat.eq_zero_of_not_pos fun later => gaps 0 later (known_zero_value x rest)
    exact ⟨by omega, fun j => known j (Nat.zero_le j)⟩
  · rintro ⟨late, known⟩
    exact ⟨0, known_zero_value x rest, fun j early => absurd early (Nat.not_lt_zero j), by omega, fun j _ => known j⟩

theorem not_unbrokenAt_undefined_zero (rest : List Exact) {length : Nat} (positive : 0 < length) :
    ¬ UnbrokenAt (.undefined :: rest) length 0 := by
  rintro ⟨first, -, -, late, -⟩
  omega

theorem unbrokenAt_undefined_succ (rest : List Exact) (length i : Nat) :
    UnbrokenAt (.undefined :: rest) length (i + 1) ↔ UnbrokenAt rest length i := by
  constructor
  · rintro ⟨first, begins, gaps, late, known⟩
    cases first with
    | zero => exact absurd begins (not_known_zero_undefined rest)
    | succ first =>
      exact ⟨first, begins, fun j early => gaps (j + 1) (Nat.succ_lt_succ early), by omega,
        fun j from_first le => known (j + 1) (Nat.succ_le_succ from_first) (Nat.succ_le_succ le)⟩
  · rintro ⟨first, begins, gaps, late, known⟩
    refine ⟨first + 1, begins, fun j early => ?_, by omega, fun j from_first le => ?_⟩
    · cases j with
      | zero => exact not_known_zero_undefined rest
      | succ j => exact gaps j (Nat.lt_of_succ_lt_succ early)
    · cases j with
      | zero => exact absurd from_first (Nat.not_succ_le_zero first)
      | succ j => exact known j (Nat.le_of_succ_le_succ from_first) (Nat.le_of_succ_le_succ le)

theorem rsi_defined {length : Nat} (positive : 0 < length) (series : List Exact) :
    DefinedExactly (rsi length series) series.length (UnbrokenAt series length) := by
  induction series with
  | nil => exact .of_iff rfl fun i inside => absurd inside (Nat.not_lt_zero i)
  | cons e rest ih =>
    cases e with
    | undefined =>
      rw [rsi_of_undefined length rfl rest]
      refine .cons ?_ (ih.congr fun i _ => (unbrokenAt_undefined_succ rest length i).symm)
      simp [not_unbrokenAt_undefined_zero rest positive]
    | value x =>
      rw [rsi_of_defined length rfl rest]
      exact (rsiFromStart_defined positive _).congr fun i _ => (unbrokenAt_value x rest length i).symm

end Indicator

/-- Where a windowed indicator is defined. -/
def Windowed.DefinedAt (series : List Exact) (length i : Nat) : Windowed → Prop
  | .sma | .stdev | .highest | .lowest => FullAt series length i
  | .ema => BegunAt series i
  | .rsi => UnbrokenAt series length i

theorem apply_defined (series : List Exact) :
    (∀ (indicator : Windowed) length, 0 < length →
      DefinedExactly (indicator.apply length series) series.length fun i => indicator.DefinedAt series length i) ∧
    (∀ (line : Band) length (multiple : ℝ), 0 < length →
      DefinedExactly (line.apply length (.value multiple) series) series.length (FullAt series length)) ∧
    ∀ (part : Convergence) fast slow signal, 0 < fast → 0 < slow → 0 < signal →
      DefinedExactly (part.apply fast slow signal series) series.length (BegunAt series) := by
  refine ⟨fun indicator length positive => ?_, fun line length multiple positive => ?_,
    fun part fast slow signal positive positive' positive'' => ?_⟩
  · cases indicator with
    | sma => exact Indicator.sma_defined positive series
    | ema => exact Indicator.ema_defined positive series
    | rsi => exact Indicator.rsi_defined positive series
    | stdev => exact Indicator.stdev_defined positive series
    | highest => exact Indicator.highest_defined positive series
    | lowest => exact Indicator.lowest_defined positive series
  · have middle := Indicator.sma_defined positive series
    have width := (Indicator.stdev_defined positive series).map_mul multiple
    cases line with
    | upper => exact .zipWith (fun x y => ⟨x + y, rfl⟩) rfl middle width
    | middle => exact middle
    | lower => exact .zipWith Indicator.sub_values rfl middle width
  · cases part with
    | line => exact Indicator.macdLine_defined positive positive' series
    | signal => exact Indicator.macdSignal_defined positive positive' positive'' series
    | histogram => exact Indicator.macdHistogram_defined positive positive' positive'' series

theorem apply_defined_sample :
    0 < 2 ∧ FullAt [value 1, undefined, value 2, value 4] 2 3 ∧
      Known (Windowed.sma.apply 2 [value 1, undefined, value 2, value 4]) 3 ∧
      ¬ FullAt [value 1, undefined, value 2, value 4] 2 2 ∧
      (Windowed.sma.apply 2 [value 1, undefined, value 2, value 4])[2]? = some .undefined := by
  have full : FullAt [value 1, undefined, value 2, value 4] 2 3 := by
    refine ⟨by decide, fun j new le => ?_⟩
    obtain rfl | rfl : j = 2 ∨ j = 3 := by omega
    · exact ⟨2, rfl⟩
    · exact ⟨4, rfl⟩
  have gap : ¬ FullAt [value 1, undefined, value 2, value 4] 2 2 := fun full =>
    not_known_zero_undefined [.value 2, .value 4] (full.2 1 (by decide) (by decide))
  have exactly := (apply_defined [value 1, undefined, value 2, value 4]).1 .sma 2 (by decide)
  exact ⟨by decide, full, exactly.defined 3 (by decide) full, gap, exactly.undefined 2 (by decide) gap⟩

end IndicatorScript
