import IndicatorScript.Indicator.Rolling
import IndicatorScript.Proofs.Number.Exact

/-!
# Windows

The window of a bar is what the bar and those before it hold. What a running statistic keeps while values enter and
leave holds of the state at each bar and its window (`Keeps.states`). So a statistic that is kept up to date is the one
computed from each window alone, if the two agree on full windows (`Keeps.running_eq`).
-/

namespace IndicatorScript.Indicator

variable {α σ : Type}

theorem getElem?_histories (past series : List α) {i : Nat} (inside : i < series.length) :
    (histories past series)[i]? = some ((series.take (i + 1)).reverse ++ past) := by
  induction series generalizing past i with
  | nil => cases inside
  | cons x rest ih =>
    cases i with
    | zero => rfl
    | succ i =>
      rw [histories, List.getElem?_cons_succ, ih _ (Nat.lt_of_succ_lt_succ inside), List.take_succ_cons,
        List.reverse_cons, List.append_assoc]
      rfl

/-! ## Windows of bars -/

section Bars

variable {series : List α} {length i : Nat}

theorem getElem?_window (inside : i < series.length) (length k : Nat) (le : k ≤ i) :
    ((series.take (i + 1)).reverse.take length)[k]? = if k < length then series[i - k]? else none := by
  have count : (series.take (i + 1)).length = i + 1 := by
    rw [List.length_take]
    omega
  have index : i + 1 - 1 - k = i - k := by omega
  rw [List.getElem?_take, List.getElem?_reverse (by omega), count, List.getElem?_take, index,
    if_pos (show i - k < i + 1 by omega)]

variable [Number α]

def FiniteAt (series : List α) (i : Nat) : Prop := ∃ x, series[i]? = some x ∧ Number.isFinite x = true

/-- The window of so many bars that ends here is there, and all in it is finite. -/
def CompleteAt (series : List α) (length i : Nat) : Prop :=
  length ≤ i + 1 ∧ ∀ j, i < j + length → j ≤ i → FiniteAt series j

theorem lt_length_of_completeAt (positive : 0 < length) (complete : CompleteAt series length i) :
    i < series.length := by
  rcases complete.2 i (Nat.lt_add_of_pos_right positive) le_rfl with ⟨x, found, -⟩
  exact (List.getElem?_eq_some_iff.mp found).1

theorem isComplete_window (positive : 0 < length) (inside : i < series.length) :
    isComplete length (series.take (i + 1)).reverse = true ↔ CompleteAt series length i := by
  have count : ((series.take (i + 1)).reverse.take length).length = min length (i + 1) := by
    rw [List.length_take, List.length_reverse, List.length_take]
    omega
  simp only [isComplete, count, positive, decide_true, Bool.true_and, Bool.and_eq_true, decide_eq_true_eq,
    List.all_eq_true]
  constructor
  · rintro ⟨full, finite⟩
    refine ⟨by omega, fun j new le => ?_⟩
    have found := getElem?_window inside length (i - j) (Nat.sub_le i j)
    have here := List.getElem?_eq_getElem (show j < series.length by omega)
    rw [if_pos (by omega), Nat.sub_sub_self le, here] at found
    exact ⟨series[j], here, finite _ (List.mem_of_getElem? found)⟩
  · rintro ⟨full, finite⟩
    refine ⟨by omega, fun x mem => ?_⟩
    rcases List.mem_iff_getElem?.mp mem with ⟨k, found⟩
    have bound : k < min length (i + 1) := count ▸ (List.getElem?_eq_some_iff.mp found).1
    rw [getElem?_window inside length k (by omega), if_pos (by omega)] at found
    rcases finite (i - k) (by omega) (Nat.sub_le i k) with ⟨y, same, isFinite⟩
    rw [found, Option.some.injEq] at same
    rwa [same]

theorem getElem?_rolling_of_completeAt (positive : 0 < length) (statistic : List α → α)
    (complete : CompleteAt series length i) :
    (rolling length statistic series)[i]? = some (statistic ((series.take (i + 1)).reverse.take length)) := by
  have inside := lt_length_of_completeAt positive complete
  have found := getElem?_histories [] series inside
  rw [List.append_nil] at found
  rw [rolling, List.getElem?_map, found, Option.map_some, overWindow,
    if_pos ((isComplete_window positive inside).mpr complete)]

theorem getElem?_rolling_of_not_completeAt (positive : 0 < length) (statistic : List α → α)
    (inside : i < series.length) (incomplete : ¬ CompleteAt series length i) :
    (rolling length statistic series)[i]? = some Number.nan := by
  have found := getElem?_histories [] series inside
  rw [List.append_nil] at found
  rw [rolling, List.getElem?_map, found, Option.map_some, overWindow,
    if_neg (mt (isComplete_window positive inside).mp incomplete)]

end Bars

/-! ## Statistics kept up to date -/

/-- A property of the states of a window, which values that enter and leave it preserve. -/
structure Running.Keeps (statistic : Running σ α) (p : List α → σ → Prop) : Prop where
  start : p [] statistic.start
  enter {window : List α} {state : σ} (x : α) : p window state → p (x :: window) (statistic.enter state x)
  leave {window : List α} {state : σ} {oldest : α} : p (window ++ [oldest]) state →
    p window (statistic.leave state oldest)

namespace Running.Keeps

variable {statistic : Running σ α} {p : List α → σ → Prop} (keeps : statistic.Keeps p)

include keeps

theorem ofWindow (window : List α) : p window (statistic.ofWindow window) := by
  induction window with
  | nil => exact keeps.start
  | cons x window ih => exact keeps.enter x ih

theorem next {length : Nat} (positive : 0 < length) {past : List α} {state : σ} (holds : p (past.take length) state)
    (x : α) : p ((x :: past).take length) (statistic.next length past state x) := by
  obtain ⟨fewer, rfl⟩ : ∃ fewer, length = fewer + 1 := ⟨length - 1, by omega⟩
  rw [Running.next]
  split
  · next single =>
    obtain rfl : fewer = 0 := by omega
    exact keeps.ofWindow [x]
  have moved (kept : σ) (holds : p (past.take fewer) kept) :
      p ((x :: past).take (fewer + 1)) (if statistic.isWorn (statistic.enter kept x) then
        statistic.ofWindow ((x :: past).take (fewer + 1)) else statistic.enter kept x) := by
    split
    · exact keeps.ofWindow _
    · exact keeps.enter x holds
  rw [Nat.add_sub_cancel]
  cases found : past[fewer]? with
  | some oldest =>
    rw [List.take_add_one, found] at holds
    exact moved _ (keeps.leave holds)
  | none =>
    have few := List.getElem?_eq_none_iff.mp found
    rw [List.take_of_length_le (Nat.le_succ_of_le few)] at holds
    exact moved state (by rwa [List.take_of_length_le few])

theorem states {length : Nat} (positive : 0 < length) {past : List α} {state : σ}
    (holds : p (past.take length) state) (series : List α) :
    List.Forall₂ (fun history state => p (history.take length) state) (histories past series)
      (statistic.states length past state series) := by
  induction series generalizing past state with
  | nil => exact .nil
  | cons x rest ih =>
    have moved := keeps.next positive holds x
    exact .cons moved (ih moved)

end Running.Keeps

/-! ## Windows of exact numbers -/

open Exact

/-- A statistic that passes gaps over keeps what it keeps of the numbers in a window. -/
theorem Running.Keeps.ofReals {statistic : Running σ Exact} {p : List ℝ → σ → Prop} (start : p [] statistic.start)
    (enter : ∀ xs state x, p xs state → p (x :: xs) (statistic.enter state (.value x)))
    (leave : ∀ xs state oldest, p (xs ++ [oldest]) state → p xs (statistic.leave state (.value oldest)))
    (gap : ∀ state, statistic.enter state undefined = state ∧ statistic.leave state undefined = state) :
    statistic.Keeps fun window => p (reals window) where
  start := start
  enter {window state} x holds := by
    cases x with
    | undefined => rwa [(gap state).1]
    | value x => exact enter _ state x holds
  leave {window state oldest} holds := by
    rw [reals_append] at holds
    cases oldest with
    | undefined =>
      rw [reals_undefined, reals_nil, List.append_nil] at holds
      rwa [(gap state).2]
    | value x => exact leave _ state x holds

theorem isComplete_iff {length : Nat} {history : List Exact} :
    isComplete length history = true ↔
      0 < length ∧ ∃ xs : List ℝ, history.take length = xs.map value ∧ xs.length = length := by
  simp only [isComplete, Bool.and_eq_true, decide_eq_true_eq]
  constructor
  · rintro ⟨⟨positive, full⟩, defined⟩
    have same := map_value_reals (List.all_eq_true.mp defined)
    exact ⟨positive, reals (history.take length), same.symm, by rw [← List.length_map, same, full]⟩
  · rintro ⟨positive, xs, same, full⟩
    refine ⟨⟨positive, by rw [same, List.length_map, full]⟩, ?_⟩
    rw [same, List.all_map, List.all_eq_true]
    exact fun _ _ => rfl

theorem Running.Keeps.running_eq {statistic : Running σ Exact} {p : List ℝ → σ → Prop}
    (keeps : statistic.Keeps fun window => p (reals window)) {exactly : List ℝ → ℝ}
    (same : ∀ xs state, xs ≠ [] → p xs state → statistic.value state = .value (exactly xs))
    {length : Nat} (positive : 0 < length) (series : List Exact) :
    running statistic length series = rolling length (fun window => .value (exactly (reals window))) series := by
  have start : p (reals (([] : List Exact).take length)) statistic.start := by
    rw [List.take_nil]
    exact keeps.start
  have states := keeps.states positive start series
  rw [running, rolling]
  generalize histories [] series = histories at states ⊢
  generalize statistic.states length [] statistic.start series = made at states ⊢
  induction states with
  | nil => rfl
  | @cons history state _ _ holds _ ih =>
    rw [List.zipWith_cons_cons, List.map_cons, ih, overWindow]
    congr 1
    split
    · next complete =>
      rcases isComplete_iff.mp complete with ⟨-, xs, window, full⟩
      rw [window, reals_map_value] at holds ⊢
      exact same xs state (List.ne_nil_of_length_pos (by omega)) holds
    · rfl

end IndicatorScript.Indicator
