import IndicatorScript.Proofs.Indicator.Window
import IndicatorScript.Proofs.Number.Order

/-!
# Extremes of extremes

The windows that end in a window make up one longer window (`exists_between`), of the two lengths together less the bar
that they share. The extreme of a window is the newest of its values that no other one beats (`BestAt`). The newest one
among the extremes of the shorter windows that no other one beats is such a value of the longer window
(`BestAt.nested`), and there is only one (`extremes_nested`).
-/

namespace IndicatorScript

open Number

variable {α : Type} [Number α]

/-- A choice between two numbers, the second one unless the first one beats it, by a weak order of the numbers. -/
structure Choosing (pick : α → α → α) (beats : α → α → Bool) : Prop where
  pick_eq {x : α} (y : α) : isNaN x = false → pick x y = if beats x y then x else y
  asymm {x y : α} : beats x y = true → beats y x = false
  between {x y z : α} : isNaN y = false → beats x z = true → beats x y = true ∨ beats y z = true

theorem isNaN_of_isFinite {x : α} (finite : isFinite x = true) : isNaN x = false := by
  rw [isFinite, Bool.and_eq_true, Bool.not_eq_true'] at finite
  exact finite.1

section Lawful

variable [LawfulLess α]

theorem choosing_max : Choosing Number.max fun x y : α => less y x where
  pick_eq y defined := by simp only [Number.max, defined, Bool.or_false]
  asymm := LawfulLess.asymm
  between defined beaten := (LawfulLess.between defined beaten).symm

theorem choosing_min : Choosing Number.min (less : α → α → Bool) where
  pick_eq y defined := by simp only [Number.min, defined, Bool.or_false]
  asymm := LawfulLess.asymm
  between := LawfulLess.between

end Lawful

namespace Choosing

variable {pick : α → α → α} {beats : α → α → Bool} (choosing : Choosing pick beats)

include choosing

theorem irrefl (x : α) : beats x x = false :=
  Bool.eq_false_iff.mpr fun beaten => Bool.false_ne_true ((choosing.asymm beaten).symm.trans beaten)

theorem trans_not {x y z : α} (defined : isNaN y = false) (first : beats x y = false) (second : beats y z = false) :
    beats x z = false := by
  refine Bool.eq_false_iff.mpr fun beaten => ?_
  rcases choosing.between defined beaten with beaten | beaten
  · rw [first] at beaten
    cases beaten
  · rw [second] at beaten
    cases beaten

end Choosing

namespace Indicator

/-! ## The best value of a window -/

/-- What is left of a window, given with the newest value first, when its values are chosen from in turn. -/
def best (pick : α → α → α) (window : List α) : α :=
  match window.reverse with
  | [] => nan
  | x :: rest => rest.foldl pick x

theorem highest_eq (length : Nat) (series : List α) :
    highest length series = rolling length (best Number.max) series := rfl

theorem lowest_eq (length : Nat) (series : List α) :
    lowest length series = rolling length (best Number.min) series := rfl

theorem best_cons (pick : α → α → α) (x : α) {older : List α} (nonempty : older ≠ []) :
    best pick (x :: older) = pick (best pick older) x := by
  obtain ⟨oldest, rest, reversed⟩ := List.exists_cons_of_ne_nil (List.reverse_ne_nil_iff.mpr nonempty)
  simp only [best, List.reverse_cons, reversed, List.cons_append, List.foldl_append, List.foldl_cons, List.foldl_nil]

/-- The newest value of a window, at position `k` from its end, that no other one beats. -/
structure BestOf (beats : α → α → Bool) (window : List α) (k : Nat) (x : α) : Prop where
  here : window[k]? = some x
  newer {j : Nat} {y : α} : j < k → window[j]? = some y → beats x y = true
  unbeaten {j : Nat} {y : α} : window[j]? = some y → beats y x = false

section Best

variable {pick : α → α → α} {beats : α → α → Bool} (choosing : Choosing pick beats)

include choosing

theorem exists_bestOf {window : List α} (nonempty : window ≠ []) (defined : ∀ x ∈ window, isNaN x = false) :
    ∃ k, BestOf beats window k (best pick window) := by
  induction window with
  | nil => exact absurd rfl nonempty
  | cons x older ih =>
    have here : isNaN x = false := defined x List.mem_cons_self
    by_cases alone : older = []
    · subst alone
      refine ⟨0, rfl, nofun, fun {j y} found => ?_⟩
      obtain rfl : x = y := List.mem_singleton.mp (List.mem_of_getElem? found) ▸ rfl
      exact choosing.irrefl x
    · obtain ⟨k, isBest⟩ := ih alone fun y mem => defined y (List.mem_cons_of_mem x mem)
      rw [best_cons pick x alone]
      generalize best pick older = y at isBest
      have there : isNaN y = false := defined y (List.mem_cons_of_mem x (List.mem_of_getElem? isBest.here))
      rw [choosing.pick_eq x there]
      split
      · next beaten =>
        refine ⟨k + 1, isBest.here, fun {j z} before found => ?_, fun {j z} found => ?_⟩
        · cases j with
          | zero => exact Option.some.inj found ▸ beaten
          | succ j => exact isBest.newer (Nat.lt_of_succ_lt_succ before) found
        · cases j with
          | zero => exact Option.some.inj found ▸ choosing.asymm beaten
          | succ j => exact isBest.unbeaten found
      · next kept =>
        refine ⟨0, rfl, nofun, fun {j z} found => ?_⟩
        cases j with
        | zero => exact Option.some.inj found ▸ choosing.irrefl x
        | succ j => exact choosing.trans_not there (isBest.unbeaten found) (Bool.eq_false_iff.mpr kept)

end Best

/-! ## The best value of the bars of a window -/

/-- The newest value of the last bars, at bar `p`, that no other one beats. -/
structure BestAt {α : Type} (beats : α → α → Bool) (series : List α) (length i p : Nat) (x : α) : Prop where
  here : series[p]? = some x
  le : p ≤ i
  since : i < p + length
  newer {j : Nat} {y : α} : p < j → j ≤ i → series[j]? = some y → beats x y = true
  unbeaten {j : Nat} {y : α} : j ≤ i → i < j + length → series[j]? = some y → beats y x = false

omit [Number α] in
theorem BestAt.unique {beats : α → α → Bool} {series : List α} {length i p q : Nat} {x y : α}
    (isBest : BestAt beats series length i p x) (isBest' : BestAt beats series length i q y) : x = y := by
  rcases Nat.lt_trichotomy p q with before | rfl | after
  · have beaten := isBest.newer before isBest'.le isBest'.here
    rw [isBest'.unbeaten isBest.le isBest.since isBest.here] at beaten
    cases beaten
  · exact Option.some.inj (isBest.here.symm.trans isBest'.here)
  · have beaten := isBest'.newer after isBest.le isBest.here
    rw [isBest.unbeaten isBest'.le isBest'.since isBest'.here] at beaten
    cases beaten

/-- A bar of the longer window is in the window of a bar of the later one. -/
theorem exists_between {length length' i j : Nat} (positive : 0 < length) (positive' : 0 < length') (le : j ≤ i)
    (new : i < j + (length + length' - 1)) : ∃ k, (k ≤ i ∧ i < k + length') ∧ j ≤ k ∧ k < j + length :=
  ⟨min i (j + length - 1), by omega, by omega, by omega⟩

theorem CompleteAt.shorter {length length' i k : Nat} {series : List α} (positive : 0 < length)
    (complete : CompleteAt series (length + length' - 1) i) (le : k ≤ i) (new : i < k + length') :
    CompleteAt series length k :=
  ⟨by have := complete.1; omega, fun j new' le' => complete.2 j (by omega) (by omega)⟩

section Nested

variable {pick : α → α → α} {beats : α → α → Bool} (choosing : Choosing pick beats)
  {length length' : Nat} (positive : 0 < length) (positive' : 0 < length') {series : List α} {i : Nat}

include choosing positive

theorem exists_bestAt (complete : CompleteAt series length i) :
    ∃ p x, (rolling length (best pick) series)[i]? = some x ∧ BestAt beats series length i p x := by
  have inside := lt_length_of_completeAt positive complete
  have entry (k : Nat) (recent : k < length) :
      ((series.take (i + 1)).reverse.take length)[k]? = series[i - k]? := by
    rw [getElem?_window inside length k (by have := complete.1; omega), if_pos recent]
  have defined : ∀ x ∈ (series.take (i + 1)).reverse.take length, isNaN x = false := by
    have finite := (isComplete_window positive inside).mpr complete
    simp only [isComplete, Bool.and_eq_true, List.all_eq_true] at finite
    exact fun x mem => isNaN_of_isFinite (finite.2 x mem)
  have nonempty : (series.take (i + 1)).reverse.take length ≠ [] := by
    have latest := entry 0 positive
    rw [Nat.sub_zero, List.getElem?_eq_getElem inside] at latest
    exact List.ne_nil_of_mem (List.mem_of_getElem? latest)
  obtain ⟨k, isBest⟩ := exists_bestOf choosing nonempty defined
  have recent : k < length := by
    have bound := (List.getElem?_eq_some_iff.mp isBest.here).1
    exact Nat.lt_of_lt_of_le bound (List.length_take_le length _)
  have early := complete.1
  refine ⟨i - k, _, getElem?_rolling_of_completeAt positive (best pick) complete, ?_, Nat.sub_le i k, by omega,
    fun {j y} after le found => ?_, fun {j y} le new found => ?_⟩
  · rw [← entry k recent, isBest.here]
  · refine isBest.newer (j := i - j) (by omega) ?_
    rw [entry (i - j) (by omega), Nat.sub_sub_self le, found]
  · refine isBest.unbeaten (j := i - j) ?_
    rw [entry (i - j) (by omega), Nat.sub_sub_self le, found]

include positive' in
/-- The newest unbeaten one of the best values is the best value of the longer window. -/
theorem BestAt.nested (complete : CompleteAt series (length + length' - 1) i) {k p : Nat} {x : α}
    (outer : BestAt beats (rolling length (best pick) series) length' i k x)
    (inner : BestAt beats series length k p x) : BestAt beats series (length + length' - 1) i p x := by
  have other {k : Nat} (le : k ≤ i) (new : i < k + length') :=
    exists_bestAt choosing positive (complete.shorter positive le new)
  have defined {j : Nat} {y : α} (le : j ≤ i) (new : i < j + (length + length' - 1)) (found : series[j]? = some y) :
      isNaN y = false := by
    obtain ⟨y', found', finite⟩ := complete.2 j new le
    rw [found, Option.some.injEq] at found'
    exact isNaN_of_isFinite (found' ▸ finite)
  have since := inner.since
  have since' := outer.since
  refine ⟨inner.here, inner.le.trans outer.le, by omega, fun {j y} after le found => ?_, fun {j y} le new found => ?_⟩
  · by_cases le' : j ≤ k
    · exact inner.newer after le' found
    -- the window of bar `j` is one of the later ones, so its best value is beaten
    · obtain ⟨q, z, found', isBest⟩ := other le (by omega)
      have beaten := outer.newer (by omega) le found'
      have unbeaten := isBest.unbeaten le_rfl (by omega) found
      rcases choosing.between (defined le (by omega) found) beaten with beaten | beaten
      · exact beaten
      · rw [unbeaten] at beaten
        cases beaten
  · obtain ⟨k', ⟨le', new'⟩, since', within⟩ := exists_between positive positive' le new
    obtain ⟨q, z, found', isBest⟩ := other le' new'
    have lower := isBest.le
    have lower' := isBest.since
    exact choosing.trans_not (defined (by omega) (by omega) isBest.here) (isBest.unbeaten since' within found)
      (outer.unbeaten le' new' found')

variable [LawfulNaN α]

theorem finiteAt_rolling_iff (inside : i < series.length) :
    FiniteAt (rolling length (best pick) series) i ↔ CompleteAt series length i := by
  constructor
  · rintro ⟨x, found, finite⟩
    by_contra incomplete
    rw [getElem?_rolling_of_not_completeAt positive (best pick) inside incomplete, Option.some.injEq] at found
    rw [← found, isFinite_nan] at finite
    cases finite
  · intro complete
    obtain ⟨p, x, found, isBest⟩ := exists_bestAt choosing positive complete
    obtain ⟨y, here, finite⟩ := complete.2 p isBest.since isBest.le
    rw [isBest.here, Option.some.injEq] at here
    exact ⟨x, found, here ▸ finite⟩

include positive'

theorem completeAt_rolling_iff (inside : i < series.length) :
    CompleteAt (rolling length (best pick) series) length' i ↔ CompleteAt series (length + length' - 1) i := by
  have inner (k : Nat) (le : k ≤ i) := finiteAt_rolling_iff choosing positive (Nat.lt_of_le_of_lt le inside)
  constructor
  · rintro ⟨late, complete⟩
    have oldest := ((inner (i + 1 - length') (by omega)).mp (complete _ (by omega) (by omega))).1
    refine ⟨by omega, fun j new le => ?_⟩
    obtain ⟨k, ⟨le', new'⟩, since, within⟩ := exists_between positive positive' le new
    exact ((inner k le').mp (complete k new' le')).2 j within since
  · rintro ⟨late, finite⟩
    exact ⟨by omega, fun k new le => (inner k le).mpr (CompleteAt.shorter positive ⟨late, finite⟩ le new)⟩

theorem rolling_rolling_best (series : List α) :
    rolling length' (best pick) (rolling length (best pick) series) =
      rolling (length + length' - 1) (best pick) series := by
  refine List.ext_getElem? fun i => ?_
  by_cases inside : i < series.length
  · have longer : 0 < length + length' - 1 := by omega
    have iff := completeAt_rolling_iff choosing positive positive' inside
    by_cases complete : CompleteAt series (length + length' - 1) i
    · obtain ⟨k, x, found, outer⟩ := exists_bestAt choosing positive' (iff.mpr complete)
      obtain ⟨p, y, found', inner⟩ := exists_bestAt choosing positive (complete.shorter positive outer.le outer.since)
      obtain ⟨q, z, found'', isBest⟩ := exists_bestAt choosing longer complete
      obtain rfl : x = y := Option.some.inj (outer.here.symm.trans found')
      rw [found, found'', (BestAt.nested choosing positive positive' complete outer inner).unique isBest]
    · rw [getElem?_rolling_of_not_completeAt positive' _ (by simpa using inside) (mt iff.mp complete),
        getElem?_rolling_of_not_completeAt longer _ inside complete]
  · rw [List.getElem?_eq_none (by simpa using inside), List.getElem?_eq_none (by simpa using inside)]

end Nested

end Indicator

open Indicator

theorem extremes_nested [LawfulNaN α] [LawfulLess α] {length length' : Nat} (positive : 0 < length)
    (positive' : 0 < length') (series : List α) :
    highest length' (highest length series) = highest (length + length' - 1) series ∧
      lowest length' (lowest length series) = lowest (length + length' - 1) series := by
  constructor
  · simp only [highest_eq]
    exact rolling_rolling_best choosing_max positive positive' series
  · simp only [lowest_eq]
    exact rolling_rolling_best choosing_min positive positive' series

theorem extremes_nested_sample :
    let series : List Float := [3.0, 1.0, 2.0]
    0 < 2 ∧ highest 2 (highest 2 series) = highest 3 series ∧ lowest 2 (lowest 2 series) = lowest 3 series ∧
      (lowest 3 series).map isFinite = [false, false, true] := by
  intro series
  have nested := extremes_nested two_pos two_pos series
  exact ⟨two_pos, nested.1, nested.2, by decide +kernel⟩

end IndicatorScript
