import IndicatorScript.Number.Double
import IndicatorScript.Proofs.Number.Exact

/-!
# The undefined number

Laws of the undefined number that doubles and exact numbers share.
-/

namespace IndicatorScript

/-- The undefined number is told from the others, and sums, differences and products with it are undefined. -/
class LawfulNaN (α : Type) [Number α] : Prop where
  isNaN_nan : Number.isNaN (Number.nan : α) = true
  nan_add (x : α) : Number.nan + x = Number.nan
  nan_sub (x : α) : Number.nan - x = Number.nan
  nan_mul (x : α) : Number.nan * x = Number.nan

instance : LawfulNaN Float where
  isNaN_nan := by decide
  nan_add _ := rfl
  nan_sub _ := rfl
  nan_mul _ := rfl

instance : LawfulNaN Exact where
  isNaN_nan := rfl
  nan_add := Exact.undefined_add
  nan_sub := Exact.undefined_sub
  nan_mul := Exact.undefined_mul

namespace Number

variable {α : Type} [Number α] [LawfulNaN α]

@[simp] theorem isNaN_nan : isNaN (nan : α) = true := LawfulNaN.isNaN_nan

@[simp] theorem isFinite_nan : isFinite (nan : α) = false := by
  simp [isFinite]

@[simp] theorem nan_add (x : α) : nan + x = nan := LawfulNaN.nan_add x

@[simp] theorem nan_sub (x : α) : nan - x = nan := LawfulNaN.nan_sub x

@[simp] theorem nan_mul (x : α) : nan * x = nan := LawfulNaN.nan_mul x

end Number

end IndicatorScript
