import IndicatorScript.Proofs.Number.Exact

/-!
# Exact numbers that guard quotients

Exact numbers and a refusal, which is the quotient by any number that is not positive and which every operation hands
on. What is computed with guarded numbers without a refusal is computed without a division by zero, or by a negative
number, on the way.
-/

namespace IndicatorScript

inductive Guarded where
  | refused
  | number (e : Exact)

namespace Guarded

noncomputable section

/-- What one can divide by: a positive number, or the undefined one. -/
def IsDivisor (e : Exact) : Prop := ∀ x, e = .value x → 0 < x

def map (f : Exact → Exact) : Guarded → Guarded
  | refused => refused
  | number e => number (f e)

def lift (op : Exact → Exact → Exact) : Guarded → Guarded → Guarded
  | number x, number y => number (op x y)
  | _, _ => refused

open Classical in
def quotient : Guarded → Guarded → Guarded
  | number x, number y => if IsDivisor y then number (x / y) else refused
  | _, _ => refused

def compare (p : Exact → Exact → Bool) : Guarded → Guarded → Bool
  | number x, number y => p x y
  | _, _ => false

instance : Add Guarded := ⟨lift (· + ·)⟩

instance : Sub Guarded := ⟨lift (· - ·)⟩

instance : Mul Guarded := ⟨lift (· * ·)⟩

instance : Div Guarded := ⟨quotient⟩

instance : Number Guarded where
  nan := number Number.nan
  isNaN
    | refused => false
    | number e => Number.isNaN e
  isInfinite _ := false
  ofNat n := number (Number.ofNat n)
  ofInt? i := (Number.ofInt? i).map number
  toInt?
    | refused => none
    | number e => Number.toInt? e
  equal := compare Number.equal
  less := compare Number.less
  lessEqual := compare Number.lessEqual
  isSigned
    | refused => false
    | number e => Number.isSigned e
  abs := map Number.abs
  sqrt := map Number.sqrt

end

/-! ## Operations on numbers -/

section Numbers

variable (x y : Exact)

@[simp] theorem nan_eq : (Number.nan : Guarded) = number Number.nan := rfl

@[simp] theorem ofNat_eq (n : Nat) : (Number.ofNat n : Guarded) = number (Number.ofNat n) := rfl

@[simp] theorem number_add : number x + number y = number (x + y) := rfl

@[simp] theorem number_sub : number x - number y = number (x - y) := rfl

@[simp] theorem number_mul : number x * number y = number (x * y) := rfl

theorem number_div {y : Exact} (divisor : IsDivisor y) : number x / number y = number (x / y) := if_pos divisor

@[simp] theorem isNaN_number : Number.isNaN (number x) = Number.isNaN x := rfl

@[simp] theorem isFinite_number : Number.isFinite (number x) = Number.isFinite x := by
  cases x <;> rfl

@[simp] theorem equal_number : Number.equal (number x) (number y) = Number.equal x y := rfl

@[simp] theorem isZero_number : Number.isZero (number x) = Number.isZero x := rfl

@[simp] theorem max_number : Number.max (number x) (number y) = number (Number.max x y) :=
  (apply_ite number _ x y).symm

end Numbers

theorem isDivisor_value {x : ℝ} (positive : 0 < x) : IsDivisor (.value x) := by
  intro y same
  cases same
  exact positive

theorem isDivisor_undefined : IsDivisor .undefined := by
  intro x same
  cases same

theorem isDivisor_ofNat {n : Nat} (positive : 0 < n) : IsDivisor (Number.ofNat n) :=
  isDivisor_value (Nat.cast_pos.mpr positive)

/-! ## Sums -/

theorem chain_number (start : Exact) (xs : List Exact) :
    Number.chain (number start) (xs.map number) = number (Number.chain start xs) := by
  rw [Number.chain, Number.chain, List.foldl_map]
  exact List.foldl_hom number fun _ _ => rfl

theorem zipWith_number (op : Exact → Exact → Exact) (op' : Guarded → Guarded → Guarded)
    (same : ∀ x y, op' (number x) (number y) = number (op x y)) (xs ys : List Exact) :
    List.zipWith op' (xs.map number) (ys.map number) = (List.zipWith op xs ys).map number := by
  rw [List.zipWith_map, List.map_zipWith]
  simp only [same]

theorem lanes_number (sums xs : List Exact) :
    Number.lanes (sums.map number) (xs.map number) =
      ((Number.lanes sums xs).1.map number, (Number.lanes sums xs).2.map number) := by
  induction sums, xs using Number.lanes.induct with
  | case1 sums xs more ih =>
    rw [Number.lanes, if_pos (by rwa [List.length_map]), ← List.map_take, ← List.map_drop,
      zipWith_number (· + ·) _ number_add, ih]
    conv_rhs => rw [Number.lanes, if_pos more]
  | case2 sums xs few =>
    rw [Number.lanes, if_neg (by rwa [List.length_map])]
    conv_rhs => rw [Number.lanes, if_neg few]

theorem exists_eight : ∀ {sums : List Exact}, sums.length = 8 → ∃ a b c d e f g h, sums = [a, b, c, d, e, f, g, h]
  | [a, b, c, d, e, f, g, h], _ => ⟨a, b, c, d, e, f, g, h, rfl⟩

theorem lanesSum_number {xs : List Exact} (many : 8 ≤ xs.length) :
    Number.lanesSum (xs.map number) = number (Number.lanesSum xs) := by
  have eight : (xs.take 8).length = 8 := by rw [List.length_take, Nat.min_eq_left many]
  have length := (Exact.sum_lanes (xs.take 8) (xs.drop 8) eight).1
  rw [Number.lanesSum, Number.lanesSum, ← List.map_take, ← List.map_drop, lanes_number]
  generalize Number.lanes (xs.take 8) (xs.drop 8) = made at length
  rcases made with ⟨sums, rest⟩
  obtain ⟨a, b, c, d, e, f, g, h, rfl⟩ := exists_eight length
  exact chain_number _ rest

theorem sum_number (xs : List Exact) : Number.sum (xs.map number) = number (Number.sum xs) := by
  induction xs using Number.sum.induct with
  | case1 xs few =>
    rw [Number.sum, if_pos (by rwa [List.length_map])]
    conv_rhs => rw [Number.sum, if_pos few]
    exact chain_number _ xs
  | case2 xs some many =>
    rw [Number.sum, if_neg (by rwa [List.length_map]), if_pos (by rwa [List.length_map]),
      lanesSum_number (Nat.le_of_not_lt some)]
    conv_rhs => rw [Number.sum, if_neg some, if_pos many]
  | case3 xs some more half ihFront ihBack =>
    rw [Number.sum, if_neg (by rwa [List.length_map]), if_neg (by rwa [List.length_map])]
    conv_rhs => rw [Number.sum, if_neg some, if_neg more]
    dsimp only
    rw [List.length_map, ← List.map_take, ← List.map_drop, ihFront, ihBack, number_add]

end Guarded

end IndicatorScript
