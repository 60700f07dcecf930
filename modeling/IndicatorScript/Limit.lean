import IndicatorScript.Decimal.Shortest

/-!
# Limits

A limit on a count, as the settings give it. Settings are not checked when they are read, so besides whole numbers
there are fractions and truth values, which compare as numbers, and values that compare with no number at all.
-/

namespace IndicatorScript

inductive Limit where
  | whole (bound : Int)
  | fraction (bound : Float)
  | flag (bound : Bool)
  /-- A value of a type that no count compares with. -/
  | incomparable (typeName : String)
  deriving DecidableEq

def Limit.shown : Limit → String
  | .whole bound => toString bound
  | .fraction bound => Decimal.shortest bound
  | .flag bound => if bound then "True" else "False"
  | .incomparable typeName => typeName

def Limit.incomparableText (typeName : String) : String :=
  "'>' not supported between instances of 'int' and '" ++ typeName ++ "'"

def Limit.allows (limit : Limit) (count : Nat) : Bool :=
  match limit with
  | .whole bound => count ≤ bound
  | .fraction bound => !(Decimal.Dyadic.ofFloat bound).isLess count
  | .flag bound => count ≤ bound.toNat
  | .incomparable _ => false

theorem Limit.allows_of_le {limit : Limit} {count lower : Nat} (allowed : limit.allows count = true)
    (le : lower ≤ count) : limit.allows lower = true := by
  cases limit with
  | whole bound =>
    simp only [Limit.allows, decide_eq_true_eq] at allowed ⊢
    omega
  | fraction bound =>
    simp only [Limit.allows, Bool.not_eq_true', Bool.eq_false_iff] at allowed ⊢
    exact fun isLess => allowed (Decimal.Dyadic.isLess_of_le isLess le)
  | flag bound =>
    simp only [Limit.allows, decide_eq_true_eq] at allowed ⊢
    omega
  | incomparable typeName => cases allowed

def Limit.room (limit : Limit) (most : Nat) : Nat :=
  match limit with
  | .whole bound => bound.toNat
  | .flag bound => bound.toNat
  | .incomparable _ => 0
  | .fraction _ => ((List.range (most + 1)).takeWhile limit.allows).length - 1

end IndicatorScript
