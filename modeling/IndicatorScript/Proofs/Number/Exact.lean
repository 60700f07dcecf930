import IndicatorScript.Number.Sum
import Mathlib

/-!
# Exact numbers

The numbers in which results of indicators are reasoned about: the real numbers and an undefined one, which every
operation hands on. A quotient by zero and the root of a negative number are undefined.
-/

namespace IndicatorScript

inductive Exact where
  | undefined
  | value (x : ℝ)

namespace Exact

noncomputable section

open Classical in
def quotient : Exact → Exact → Exact
  | value x, value y => if y = 0 then undefined else value (x / y)
  | _, _ => undefined

/-- An operation on real numbers. -/
def lift (f : ℝ → ℝ → ℝ) : Exact → Exact → Exact
  | value x, value y => value (f x y)
  | _, _ => undefined

instance : Add Exact := ⟨lift (· + ·)⟩

instance : Sub Exact := ⟨lift (· - ·)⟩

instance : Mul Exact := ⟨lift (· * ·)⟩

instance : Div Exact := ⟨quotient⟩

def compare (p : ℝ → ℝ → Prop) [DecidableRel p] : Exact → Exact → Bool
  | value x, value y => p x y
  | _, _ => false

open Classical in
instance : Number Exact where
  nan := undefined
  isNaN
    | undefined => true
    | value _ => false
  isInfinite _ := false
  ofNat n := value n
  ofInt? i := some (value i)
  toInt?
    | undefined => none
    | value x => if x = ⌊x⌋ then some ⌊x⌋ else none
  equal := compare (· = ·)
  less := compare (· < ·)
  lessEqual := compare (· ≤ ·)
  isSigned
    | undefined => false
    | value x => x < 0
  abs
    | undefined => undefined
    | value x => value |x|
  sqrt
    | undefined => undefined
    | value x => if x < 0 then undefined else value √x

end

/-! ## Operations on values -/

section Values

variable (x y : ℝ) (e : Exact)

@[simp] theorem nan_eq : (Number.nan : Exact) = undefined := rfl

@[simp] theorem ofNat_eq (n : Nat) : (Number.ofNat n : Exact) = value n := rfl

@[simp] theorem value_add : value x + value y = value (x + y) := rfl

@[simp] theorem value_sub : value x - value y = value (x - y) := rfl

@[simp] theorem value_mul : value x * value y = value (x * y) := rfl

theorem value_div {y : ℝ} (nonzero : y ≠ 0) : value x / value y = value (x / y) := if_neg nonzero

@[simp] theorem undefined_add : undefined + e = undefined := rfl

@[simp] theorem add_undefined : e + undefined = undefined := by cases e <;> rfl

@[simp] theorem undefined_sub : undefined - e = undefined := rfl

@[simp] theorem sub_undefined : e - undefined = undefined := by cases e <;> rfl

@[simp] theorem undefined_mul : undefined * e = undefined := rfl

@[simp] theorem mul_undefined : e * undefined = undefined := by cases e <;> rfl

@[simp] theorem undefined_div : undefined / e = undefined := rfl

@[simp] theorem div_undefined : e / undefined = undefined := by cases e <;> rfl

@[simp] theorem isNaN_undefined : Number.isNaN undefined = true := rfl

@[simp] theorem isNaN_value : Number.isNaN (value x) = false := rfl

@[simp] theorem isFinite_undefined : Number.isFinite undefined = false := rfl

@[simp] theorem isFinite_value : Number.isFinite (value x) = true := rfl

@[simp] theorem equal_undefined : Number.equal e undefined = false := by cases e <;> rfl

@[simp] theorem equal_value : Number.equal (value x) (value y) = true ↔ x = y := decide_eq_true_iff

@[simp] theorem less_value : Number.less (value x) (value y) = true ↔ x < y := decide_eq_true_iff

@[simp] theorem isZero_undefined : Number.isZero undefined = false := rfl

@[simp] theorem isZero_value : Number.isZero (value x) = true ↔ x = 0 := by
  rw [Number.isZero, ofNat_eq, equal_value, Nat.cast_zero]

@[simp] theorem isSigned_value : Number.isSigned (value x) = true ↔ x < 0 := decide_eq_true_iff

theorem sqrt_value {x : ℝ} (nonneg : 0 ≤ x) : Number.sqrt (value x) = value √x := if_neg (not_lt.mpr nonneg)

@[simp] theorem max_value : Number.max (value x) (value y) = value (max x y) := by
  by_cases less : y < x
  · rw [Number.max, if_pos (by simp [less]), max_eq_left less.le]
  · rw [Number.max, if_neg (by simp [less]), max_eq_right (not_lt.mp less)]

@[simp] theorem min_value : Number.min (value x) (value y) = value (min x y) := by
  by_cases less : x < y
  · rw [Number.min, if_pos (by simp [less]), min_eq_left less.le]
  · rw [Number.min, if_neg (by simp [less]), min_eq_right (not_lt.mp less)]

@[simp] theorem max_undefined : Number.max undefined e = undefined := by
  cases e <;> rfl

end Values

/-! ## Sums -/

instance : Zero Exact := ⟨value 0⟩

instance : AddCommMonoid Exact where
  add_assoc
    | undefined, _, _ => rfl
    | value _, undefined, _ => rfl
    | value _, value _, undefined => rfl
    | value x, value y, value z => congrArg value (add_assoc x y z)
  zero_add
    | undefined => rfl
    | value x => congrArg value (zero_add x)
  add_zero
    | undefined => rfl
    | value x => congrArg value (add_zero x)
  add_comm
    | undefined, undefined => rfl
    | undefined, value _ => rfl
    | value _, undefined => rfl
    | value x, value y => congrArg value (add_comm x y)
  nsmul := nsmulRec

theorem chain_eq (start : Exact) (xs : List Exact) : Number.chain start xs = start + xs.sum := by
  induction xs generalizing start with
  | nil => exact (add_zero start).symm
  | cons x xs ih =>
    rw [List.sum_cons, ← add_assoc]
    exact ih (start + x)

theorem sum_lanes (sums xs : List Exact) (eight : sums.length = 8) :
    (Number.lanes sums xs).1.length = 8 ∧
      (Number.lanes sums xs).1.sum + (Number.lanes sums xs).2.sum = sums.sum + xs.sum := by
  induction sums, xs using Number.lanes.induct with
  | case1 sums xs more ih =>
    have taken : (xs.take 8).length = 8 := by rw [List.length_take, Nat.min_eq_left more]
    have together : (List.zipWith (· + ·) sums (xs.take 8)).sum = sums.sum + (xs.take 8).sum := by
      rw [← List.sum_add_sum_eq_sum_zipWith_of_length_eq _ _ (eight.trans taken.symm)]
    rw [Number.lanes, if_pos more]
    rcases ih (by rw [List.length_zipWith, eight, taken, Nat.min_self]) with ⟨length, same⟩
    refine ⟨length, ?_⟩
    rw [same, together, add_assoc, List.sum_take_add_sum_drop]
  | case2 sums xs few =>
    rw [Number.lanes, if_neg few]
    exact ⟨eight, rfl⟩

theorem lanesSum_eq {xs : List Exact} (many : 8 ≤ xs.length) : Number.lanesSum xs = xs.sum := by
  have eight : (xs.take 8).length = 8 := by rw [List.length_take, Nat.min_eq_left many]
  rcases sum_lanes (xs.take 8) (xs.drop 8) eight with ⟨length, same⟩
  rw [List.sum_take_add_sum_drop] at same
  rw [Number.lanesSum]
  generalize Number.lanes (xs.take 8) (xs.drop 8) = made at length same
  rcases made with ⟨sums, rest⟩
  match sums, length with
  | [a, b, c, d, e, f, g, h], _ =>
    dsimp only
    rw [chain_eq, ← same]
    simp only [List.sum_cons, List.sum_nil, add_zero, add_assoc]

/-- Exact sums do not depend on the order of the terms. -/
theorem sum_eq (xs : List Exact) : Number.sum xs = xs.sum := by
  induction xs using Number.sum.induct with
  | case1 xs few =>
    rw [Number.sum, if_pos few, chain_eq, ofNat_eq, Nat.cast_zero]
    exact zero_add xs.sum
  | case2 xs some many =>
    rw [Number.sum, if_neg some, if_pos many, lanesSum_eq (Nat.le_of_not_lt some)]
  | case3 xs some more half ihFront ihBack =>
    rw [Number.sum, if_neg some, if_neg more]
    dsimp only
    rw [ihFront, ihBack, List.sum_take_add_sum_drop]

theorem sum_map_value (xs : List ℝ) : (xs.map value).sum = value xs.sum := by
  induction xs with
  | nil => rfl
  | cons x xs ih => rw [List.map_cons, List.sum_cons, ih, value_add, List.sum_cons]

theorem sum_of_undefined_mem {xs : List Exact} (mem : undefined ∈ xs) : xs.sum = undefined := by
  induction xs with
  | nil => cases mem
  | cons x xs ih =>
    rw [List.sum_cons]
    rcases List.mem_cons.mp mem with rfl | mem
    · exact undefined_add _
    · rw [ih mem, add_undefined]

/-! ## Lists with gaps -/

/-- The numbers of a list, without the gaps. -/
def reals (window : List Exact) : List ℝ :=
  window.filterMap fun
    | undefined => none
    | value x => some x

@[simp] theorem reals_nil : reals [] = [] := rfl

@[simp] theorem reals_undefined (window : List Exact) : reals (undefined :: window) = reals window := rfl

@[simp] theorem reals_value (x : ℝ) (window : List Exact) : reals (value x :: window) = x :: reals window := rfl

theorem reals_append (window more : List Exact) : reals (window ++ more) = reals window ++ reals more :=
  List.filterMap_append

@[simp] theorem reals_map_value (xs : List ℝ) : reals (xs.map value) = xs := by
  induction xs with
  | nil => rfl
  | cons x xs ih => rw [List.map_cons, reals_value, ih]

theorem isFinite_iff {e : Exact} : Number.isFinite e = true ↔ e ≠ undefined := by
  cases e <;> simp

theorem map_value_reals {window : List Exact} (defined : ∀ e ∈ window, Number.isFinite e = true) :
    (reals window).map value = window := by
  induction window with
  | nil => rfl
  | cons e window ih =>
    rw [List.forall_mem_cons] at defined
    cases e with
    | undefined => cases defined.1
    | value x => rw [reals_value, List.map_cons, ih defined.2]

end Exact

end IndicatorScript
