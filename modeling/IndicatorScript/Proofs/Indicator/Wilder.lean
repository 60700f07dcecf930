import IndicatorScript.Proofs.Indicator.Defined

/-!
# The averages behind the relative strength

The relative strength at a bar is the strength of two averages, of the rises and of the falls among the changes since
the series began (`getElem?_rsi`). In exact arithmetic they are means with weights (`averageOf_value`), which scale with
their terms (`weighted_map_mul`). A mean of terms that are not negative is zero if the terms are
(`weighted_eq_zero_iff`): all of them, or with a length of one the last one, the others having no weight left.
-/

namespace IndicatorScript

open Exact

namespace Indicator

section Averages

variable {α : Type} [Number α]

/-- The average of a list with Wilder's smoothing, by way of the plain mean of its first `length` terms. -/
def averageOf (length : Nat) (xs : List α) : α :=
  (xs.drop length).foldl (wilder length) (Number.sum (xs.take length) / Number.ofNat length)

def changesBetween (first last : Nat) (series : List α) : List α := (changes (series.drop first)).take (last - first)

def gainAt (length first i : Nat) (series : List α) : α := averageOf length ((changesBetween first i series).map rise)

def lossAt (length first i : Nat) (series : List α) : α := averageOf length ((changesBetween first i series).map fall)

theorem getElem?_strengths (length : Nat) (gain loss : α) {changes : List α} {k : Nat} (le : k ≤ changes.length) :
    (strength gain loss :: strengths length gain loss changes)[k]? =
      some (strength (((changes.take k).map rise).foldl (wilder length) gain)
        (((changes.take k).map fall).foldl (wilder length) loss)) := by
  induction changes generalizing gain loss k with
  | nil =>
    obtain rfl := Nat.le_zero.mp le
    rfl
  | cons change rest ih =>
    cases k with
    | zero => rfl
    | succ k => exact ih _ _ (Nat.le_of_succ_le_succ le)

theorem getElem?_rsiFromStart {length i : Nat} {series : List α} (late : length ≤ i) (inside : i < series.length) :
    (rsiFromStart length series)[i]? =
      some (strength (averageOf length (((changes series).take i).map rise))
        (averageOf length (((changes series).take i).map fall))) := by
  have count : (changes series).length = series.length - 1 := by simp [changes]
  have within : i - length ≤ ((changes series).drop length).length := by
    rw [List.length_drop]
    omega
  have early (part : α → α) : (((changes series).take i).map part).take length =
      ((changes series).take length).map part := by
    rw [← List.map_take, List.take_take, Nat.min_eq_left late]
  have further (part : α → α) : (((changes series).take i).map part).drop length =
      (((changes series).drop length).take (i - length)).map part := by
    rw [← List.map_drop, List.drop_take]
  rw [rsiFromStart, if_neg (by omega)]
  dsimp only
  rw [List.getElem?_append_right (by rwa [List.length_replicate]), List.length_replicate,
    getElem?_strengths length _ _ within, averageOf, averageOf, early, early, further, further]

end Averages

theorem getElem?_rsi {length first i : Nat} {series : List Exact} (begins : BeginsAt series first)
    (late : first + length ≤ i) (inside : i < series.length) :
    (rsi length series)[i]? = some (strength (gainAt length first i series) (lossAt length first i series)) := by
  induction series generalizing first i with
  | nil => cases inside
  | cons e rest ih =>
    cases e with
    | undefined =>
      cases first with
      | zero => exact absurd begins.1 (not_known_zero_undefined rest)
      | succ first =>
        have begins' : BeginsAt rest first := ⟨begins.1, fun j early => begins.2 (j + 1) (Nat.succ_lt_succ early)⟩
        obtain ⟨i, rfl⟩ := Nat.exists_eq_succ_of_ne_zero (show i ≠ 0 by omega)
        rw [rsi_of_undefined length rfl rest, List.getElem?_cons_succ,
          ih begins' (by omega) (Nat.lt_of_succ_lt_succ inside)]
        simp [gainAt, lossAt, changesBetween]
    | value x =>
      obtain rfl := begins.eq_zero
      rw [rsi_of_defined length rfl rest, getElem?_rsiFromStart (by omega) inside]
      rfl

/-! ## Means with weights -/

/-- An average of `length` numbers after one more of them. -/
noncomputable def moved (length : Nat) (average x : ℝ) : ℝ := (average * (length - 1) + x) / length

noncomputable def weighted (length : Nat) (xs : List ℝ) : ℝ :=
  (xs.drop length).foldl (moved length) ((xs.take length).sum / length)

section Fold

variable {length : Nat} (positive : 0 < length)

include positive

theorem foldl_wilder_value (average : ℝ) (xs : List ℝ) :
    (xs.map value).foldl (wilder length) (value average) = value (xs.foldl (moved length) average) := by
  induction xs generalizing average with
  | nil => rfl
  | cons x xs ih => rw [List.map_cons, List.foldl_cons, wilder_value positive, List.foldl_cons, ← ih, moved]

theorem averageOf_value (xs : List ℝ) : averageOf length (xs.map value) = value (weighted length xs) := by
  have nonzero : (length : ℝ) ≠ 0 := Nat.cast_ne_zero.mpr positive.ne'
  rw [averageOf, sum_eq, ← List.map_take, sum_map_value, ofNat_eq, value_div _ nonzero, ← List.map_drop,
    foldl_wilder_value positive, weighted]

theorem foldl_moved_nonneg {average : ℝ} {xs : List ℝ} (nonneg : 0 ≤ average) (terms : ∀ x ∈ xs, 0 ≤ x) :
    0 ≤ xs.foldl (moved length) average := by
  induction xs generalizing average with
  | nil => exact nonneg
  | cons x xs ih =>
    rw [List.forall_mem_cons] at terms
    exact ih (wilder_nonneg positive nonneg terms.1) terms.2

theorem weighted_nonneg {xs : List ℝ} (terms : ∀ x ∈ xs, 0 ≤ x) : 0 ≤ weighted length xs := by
  have sum : 0 ≤ (xs.take length).sum := List.sum_nonneg fun x mem => terms x (List.mem_of_mem_take mem)
  exact foldl_moved_nonneg positive (by positivity) fun x mem => terms x (List.mem_of_mem_drop mem)

end Fold

theorem foldl_moved_mul (length : Nat) (factor average : ℝ) (xs : List ℝ) :
    (xs.map (factor * ·)).foldl (moved length) (factor * average) = factor * xs.foldl (moved length) average := by
  induction xs generalizing average with
  | nil => rfl
  | cons x xs ih =>
    have same : moved length (factor * average) (factor * x) = factor * moved length average x := by
      rw [moved, moved]
      ring
    rw [List.map_cons, List.foldl_cons, same, ih, List.foldl_cons]

theorem weighted_map_mul (length : Nat) (factor : ℝ) (xs : List ℝ) :
    weighted length (xs.map (factor * ·)) = factor * weighted length xs := by
  rw [weighted, ← List.map_take, ← List.map_drop, List.sum_map_mul_left, mul_div_assoc, List.map_id', foldl_moved_mul,
    weighted]

/-! ## Means that are zero -/

/-- The terms that have a weight in the average: with a length of one the last, or else all. -/
def counted (length : Nat) (xs : List ℝ) : List ℝ := if length = 1 then xs.drop (xs.length - 1) else xs

theorem counted_map (length : Nat) (f : ℝ → ℝ) (xs : List ℝ) :
    counted length (xs.map f) = (counted length xs).map f := by
  rw [counted, counted, List.length_map, ← List.map_drop, apply_ite (List.map f)]

theorem moved_eq_zero_iff {length : Nat} (two : 2 ≤ length) {average x : ℝ} (nonneg : 0 ≤ average) (nonneg' : 0 ≤ x) :
    moved length average x = 0 ↔ average = 0 ∧ x = 0 := by
  have two_le : (2 : ℝ) ≤ length := Nat.ofNat_le_cast.mpr two
  have nonzero : (length : ℝ) ≠ 0 := by linarith
  have weight : (0 : ℝ) < length - 1 := by linarith
  rw [moved, div_eq_zero_iff, or_iff_left nonzero, add_eq_zero_iff_of_nonneg (by positivity) nonneg',
    mul_eq_zero, or_iff_left weight.ne']

theorem foldl_moved_eq_zero_iff {length : Nat} (two : 2 ≤ length) {average : ℝ} {xs : List ℝ} (nonneg : 0 ≤ average)
    (terms : ∀ x ∈ xs, 0 ≤ x) : xs.foldl (moved length) average = 0 ↔ average = 0 ∧ ∀ x ∈ xs, x = 0 := by
  induction xs generalizing average with
  | nil => simp
  | cons x xs ih =>
    rw [List.forall_mem_cons] at terms
    have next : 0 ≤ moved length average x := wilder_nonneg (by omega) nonneg terms.1
    rw [List.foldl_cons, ih next terms.2, moved_eq_zero_iff two nonneg terms.1, List.forall_mem_cons, and_assoc]

theorem sum_eq_zero_iff {xs : List ℝ} (terms : ∀ x ∈ xs, 0 ≤ x) : xs.sum = 0 ↔ ∀ x ∈ xs, x = 0 :=
  ⟨fun zero _ mem => List.all_zero_of_le_zero_le_of_sum_eq_zero terms zero mem, List.sum_eq_zero⟩

theorem weighted_one (xs : List ℝ) (x : ℝ) : weighted 1 (xs ++ [x]) = x := by
  cases xs with
  | nil => simp [weighted]
  | cons y ys => simp [weighted, moved]

theorem weighted_eq_zero_iff {length : Nat} (positive : 0 < length) {xs : List ℝ} (enough : length ≤ xs.length)
    (terms : ∀ x ∈ xs, 0 ≤ x) : weighted length xs = 0 ↔ ∀ x ∈ counted length xs, x = 0 := by
  -- with a length of one each term takes the place of the average, so only the last one counts
  rcases Nat.lt_or_eq_of_le (Nat.succ_le_of_lt positive) with two | one
  · have early : ∀ x ∈ xs.take length, 0 ≤ x := fun x mem => terms x (List.mem_of_mem_take mem)
    have late : ∀ x ∈ xs.drop length, 0 ≤ x := fun x mem => terms x (List.mem_of_mem_drop mem)
    have sum : 0 ≤ (xs.take length).sum := List.sum_nonneg early
    have nonzero : (length : ℝ) ≠ 0 := Nat.cast_ne_zero.mpr positive.ne'
    rw [weighted, foldl_moved_eq_zero_iff two (by positivity) late, div_eq_zero_iff, or_iff_left nonzero,
      sum_eq_zero_iff early, ← List.forall_mem_append, List.take_append_drop, counted, if_neg (by omega)]
  · obtain rfl : length = 1 := one.symm
    obtain ⟨init, x, rfl⟩ : ∃ init x, xs = init ++ [x] :=
      ⟨_, _, (List.dropLast_append_getLast (List.ne_nil_of_length_pos enough)).symm⟩
    rw [weighted_one, counted, if_pos rfl]
    simp

/-! ## The index at a bar -/

noncomputable def meanRise (length : Nat) (cs : List ℝ) : ℝ := weighted length (cs.map (max · 0))

noncomputable def meanFall (length : Nat) (cs : List ℝ) : ℝ := weighted length (cs.map fun c => max (-c) 0)

theorem meanRise_nonneg {length : Nat} (positive : 0 < length) (cs : List ℝ) : 0 ≤ meanRise length cs :=
  weighted_nonneg positive (by simp)

theorem meanFall_nonneg {length : Nat} (positive : 0 < length) (cs : List ℝ) : 0 ≤ meanFall length cs :=
  weighted_nonneg positive (by simp)

/-- The relative strength of two average numbers. -/
noncomputable def index (gain loss : ℝ) : ℝ := if loss = 0 then 100 else 100 - 100 / (1 + gain / loss)

/-- The index is the gain's part of the gain and the loss together, in percent. -/
theorem index_eq {gain loss : ℝ} (nonneg : 0 ≤ gain) (nonneg' : 0 ≤ loss) (lost : loss ≠ 0) :
    index gain loss = 100 * (gain / (gain + loss)) := by
  have positive : 0 < loss := lt_of_le_of_ne nonneg' lost.symm
  have total : gain + loss ≠ 0 := by positivity
  have divisor : 1 + gain / loss = (gain + loss) / loss := by
    rw [add_div, div_self lost, add_comm]
  rw [index, if_neg lost, divisor]
  field_simp
  ring

/-- The changes, all of them numbers, that a series has made up to a bar since it began. -/
structure ChangesAt (series : List Exact) (length first i : Nat) (cs : List ℝ) : Prop where
  begins : BeginsAt series first
  late : first + length ≤ i
  inside : i < series.length
  same : changesBetween first i series = cs.map value

theorem getElem?_changesBetween (first last : Nat) (series : List Exact) (k : Nat) (c : ℝ) :
    (changesBetween first last series)[k]? = some (value c) ↔ k < last - first ∧
      ∃ x y, series[first + k]? = some (value x) ∧ series[first + k + 1]? = some (value y) ∧ c = y - x := by
  rw [changesBetween, List.getElem?_take]
  split
  · next within =>
    rw [changes, List.getElem?_zipWith, List.getElem?_tail, List.getElem?_drop, List.getElem?_drop, ← Nat.add_assoc]
    rcases series[first + k]? with _ | _ | x <;> rcases series[first + k + 1]? with _ | _ | y <;>
      simp [within, eq_comm]
  · next beyond => simp [beyond]

theorem exists_changesAt {series : List Exact} {length i : Nat} (inside : i < series.length)
    (unbroken : UnbrokenAt series length i) : ∃ first cs, ChangesAt series length first i cs := by
  rcases unbroken with ⟨first, begins, gaps, late, known⟩
  refine ⟨first, reals (changesBetween first i series), ⟨begins, gaps⟩, late, inside, (map_value_reals ?_).symm⟩
  intro e mem
  rcases List.mem_iff_getElem?.mp mem with ⟨k, found⟩
  have within : k < i - first := by
    have bound := (List.getElem?_eq_some_iff.mp found).1
    rw [changesBetween, List.length_take] at bound
    omega
  rcases known (first + k) (by omega) (by omega) with ⟨x, here⟩
  rcases known (first + k + 1) (by omega) (by omega) with ⟨y, next⟩
  have change := (getElem?_changesBetween first i series k (y - x)).mpr ⟨within, x, y, here, next, rfl⟩
  cases found.symm.trans change
  rfl

/-- A change that counts at a bar: any since the series began, or with a length of one just the change into the bar. -/
def Counts (series : List Exact) (length first i : Nat) (c : ℝ) : Prop :=
  ∃ j x y, first ≤ j ∧ j < i ∧ (length = 1 → j + 1 = i) ∧ series[j]? = some (.value x) ∧
    series[j + 1]? = some (.value y) ∧ c = y - x

theorem mem_counted_iff {length : Nat} {xs : List ℝ} {x : ℝ} :
    x ∈ counted length xs ↔ ∃ k, (length = 1 → k + 1 = xs.length) ∧ xs[k]? = some x := by
  rw [counted]
  split
  · next one =>
    rw [List.mem_iff_getElem?]
    constructor
    · rintro ⟨k, found⟩
      rw [List.getElem?_drop] at found
      have bound := (List.getElem?_eq_some_iff.mp found).1
      exact ⟨_, fun _ => by omega, found⟩
    · rintro ⟨k, last, found⟩
      have here : xs.length - 1 + 0 = k := by
        have := last one
        omega
      exact ⟨0, by rw [List.getElem?_drop, here, found]⟩
  · next many =>
    rw [List.mem_iff_getElem?]
    exact exists_congr fun k => (and_iff_right fun one => absurd one many).symm

namespace ChangesAt

variable {series : List Exact} {length first i : Nat} {cs : List ℝ} (changes : ChangesAt series length first i cs)

include changes

theorem length_eq : cs.length = i - first := by
  have count := congrArg List.length changes.same
  have inside := changes.inside
  simp only [changesBetween, Indicator.changes, List.length_take, List.length_zipWith, List.length_tail,
    List.length_drop, List.length_map] at count
  omega

theorem mem_counted_iff {c : ℝ} : c ∈ counted length cs ↔ Counts series length first i c := by
  have count := changes.length_eq
  have found (k : Nat) : cs[k]? = some c ↔ (changesBetween first i series)[k]? = some (value c) := by
    rw [changes.same, List.getElem?_map]
    simp
  rw [Indicator.mem_counted_iff]
  simp only [found, getElem?_changesBetween]
  constructor
  · rintro ⟨k, last, within, x, y, here, next, same⟩
    exact ⟨first + k, x, y, by omega, by omega, fun one => by have := last one; omega, here, next, same⟩
  · rintro ⟨j, x, y, since, before, last, here, next, same⟩
    have index : first + (j - first) = j := Nat.add_sub_cancel' since
    refine ⟨j - first, fun one => by have := last one; omega, by omega, x, y, ?_, ?_, same⟩
    · rw [index, here]
    · rw [index, next]

theorem gainAt_eq (positive : 0 < length) : gainAt length first i series = value (meanRise length cs) := by
  rw [gainAt, changes.same, meanRise, ← averageOf_value positive, List.map_map, List.map_map]
  congr 1
  exact List.map_congr_left fun c _ => rise_value c

theorem lossAt_eq (positive : 0 < length) : lossAt length first i series = value (meanFall length cs) := by
  rw [lossAt, changes.same, meanFall, ← averageOf_value positive, List.map_map, List.map_map]
  congr 1
  exact List.map_congr_left fun c _ => fall_value c

theorem rsi_eq (positive : 0 < length) :
    (rsi length series)[i]? = some (value (index (meanRise length cs) (meanFall length cs))) := by
  rw [getElem?_rsi changes.begins changes.late changes.inside, changes.gainAt_eq positive, changes.lossAt_eq positive,
    strength_value (meanRise_nonneg positive cs) (meanFall_nonneg positive cs), index]

end ChangesAt

theorem exists_changesAt_of_rsi {length : Nat} (positive : 0 < length) {series : List Exact} {i : Nat} {r : ℝ}
    (found : (rsi length series)[i]? = some (value r)) :
    ∃ first cs, ChangesAt series length first i cs ∧ index (meanRise length cs) (meanFall length cs) = r := by
  have inside : i < series.length := length_rsi length series ▸ (List.getElem?_eq_some_iff.mp found).1
  have unbroken := ((rsi_defined positive series).known_iff inside).mp ⟨r, found⟩
  rcases exists_changesAt inside unbroken with ⟨first, cs, changes⟩
  exact ⟨first, cs, changes, by simpa using (changes.rsi_eq positive).symm.trans found⟩

end Indicator

end IndicatorScript
