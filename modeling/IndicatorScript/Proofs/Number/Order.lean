import IndicatorScript.Proofs.Number.Undefined

/-!
# The order of numbers

Laws of the comparison that doubles and exact numbers share: of two numbers at most one is less than the other, and no
number is alike to both of two that differ. A double that is defined has a rank, by its sign first, then by its exponent
and its mantissa, and the lesser of two doubles is the one of lower rank (`UnpackedFloat.lt_iff`).
-/

namespace IndicatorScript

/-- Numbers that are defined are in a weak order. Different ones may be alike, as the zeros of two signs are. -/
class LawfulLess (α : Type) [Number α] : Prop where
  asymm {x y : α} : Number.less x y = true → Number.less y x = false
  between {x y z : α} : Number.isNaN y = false → Number.less x z = true →
    Number.less x y = true ∨ Number.less y z = true

theorem LawfulLess.of_rank {α β : Type} [Number α] [LinearOrder β] (rank : α → β)
    (less_iff : ∀ x y : α, Number.less x y = true ↔
      (Number.isNaN x = false ∧ Number.isNaN y = false) ∧ rank x < rank y) : LawfulLess α where
  asymm {x y} isLess := by
    have first := (less_iff x y).mp isLess
    exact Bool.eq_false_iff.mpr fun also => first.2.asymm ((less_iff y x).mp also).2
  between {x y z} defined isLess := by
    have outer := (less_iff x z).mp isLess
    simp only [less_iff, outer.1, defined, and_self, true_and]
    exact (lt_or_ge (rank x) (rank y)).imp_right fun le => le.trans_lt outer.2

/-! ## Doubles -/

namespace UnpackedFloat

open Float.Model

theorem compare_sign_eq_lt (s t : UnpackedFloat.Sign) : compare s t = .lt ↔ s = .negative ∧ t = .positive := by
  cases s <;> cases t <;> simp [compare]

section Pairs

variable {α β : Type} [LinearOrder α] [LinearOrder β] (x x' : α) (y y' : β)

theorem then_compare_eq_lt : (compare x x').then (compare y y') = .lt ↔ x < x' ∨ x = x' ∧ y < y' := by
  rw [Ordering.then_eq_lt, compare_lt_iff_lt, compare_eq_iff_eq, compare_lt_iff_lt]

theorem then_compare_eq_gt : (compare x x').then (compare y y') = .gt ↔ x' < x ∨ x = x' ∧ y' < y := by
  rw [Ordering.then_eq_gt, compare_gt_iff_gt, compare_eq_iff_eq, compare_gt_iff_gt]

end Pairs

def rank : UnpackedFloat → ℤ ×ₗ ℤ ×ₗ ℤ
  | .infinity .negative => toLex (-2, toLex (0, 0))
  | .finite .negative mantissa exponent _ => toLex (-1, toLex (-exponent, -mantissa))
  | .zero _ | .notANumber => toLex (0, toLex (0, 0))
  | .finite .positive mantissa exponent _ => toLex (1, toLex (exponent, mantissa))
  | .infinity .positive => toLex (2, toLex (0, 0))

theorem lt_iff (u v : UnpackedFloat) :
    u.lt v = true ↔ (u.isNaN = false ∧ v.isNaN = false) ∧ rank u < rank v := by
  rcases u with (_ | _) | _ | _ | ⟨_ | _, m, e, _⟩ <;> rcases v with (_ | _) | _ | _ | ⟨_ | _, m', e', _⟩ <;>
    simp [UnpackedFloat.lt, UnpackedFloat.compare, UnpackedFloat.isNaN, rank, Prod.Lex.lt_iff, compare_sign_eq_lt,
      then_compare_eq_lt, then_compare_eq_gt, Ordering.swap_eq_lt]

end UnpackedFloat

instance : LawfulLess Float :=
  .of_rank (fun x => UnpackedFloat.rank x.toModel.unpack) fun x y =>
    decide_eq_true_iff.trans (UnpackedFloat.lt_iff x.toModel.unpack y.toModel.unpack)

/-! ## Exact numbers -/

instance : LawfulLess Exact := by
  let rank : Exact → ℝ
    | .undefined => 0
    | .value x => x
  refine .of_rank rank fun x y => ?_
  cases x <;> cases y <;> simp [rank, Number.less, Exact.compare]

end IndicatorScript
