/-!
# Dyadic values

A finite double is a sign and a natural number times a power of two. Decimal forms are computed from that exact
value, so this module is where a double is taken apart.
-/

namespace IndicatorScript.Decimal

/-- The kinds of double. A finite one has the magnitude `mantissa * 2 ^ exponent`. -/
inductive Dyadic where
  | nan
  | infinity (negative : Bool)
  | finite (negative : Bool) (mantissa : Nat) (exponent : Int)
  deriving DecidableEq, Repr

def leastExponent : Int := -1074

def leadingBit : Nat := 1 <<< 52

def Dyadic.ofFloat (x : Float) : Dyadic :=
  let bits := x.toBits.toNat
  let negative := bits >>> 63 == 1
  let biased := bits >>> 52 % (1 <<< 11)
  let fraction := bits % (1 <<< 52)
  if biased = 2047 then
    if fraction = 0 then .infinity negative else .nan
  else if biased = 0 then .finite negative fraction leastExponent
  else .finite negative (leadingBit + fraction) (leastExponent + (biased - 1 : Nat))

def Dyadic.toInt? : Dyadic → Option Int
  | .finite negative mantissa exponent =>
      let magnitude? : Option Nat :=
        if 0 ≤ exponent then some (mantissa <<< exponent.toNat)
        else
          let divisor := 1 <<< (-exponent).toNat
          if mantissa % divisor = 0 then some (mantissa / divisor) else none
      magnitude?.map fun magnitude => if negative then -(magnitude : Int) else magnitude
  | _ => none

def Dyadic.isLess (n : Nat) : Dyadic → Bool
  | .nan => false
  | .infinity negative => negative
  | .finite true mantissa _ => 0 < mantissa || 0 < n
  | .finite false mantissa exponent => mantissa <<< exponent.toNat < n <<< (-exponent).toNat

theorem Dyadic.isLess_of_le {d : Dyadic} {n m : Nat} (isLess : d.isLess n = true) (le : n ≤ m) :
    d.isLess m = true := by
  cases d with
  | nan => cases isLess
  | infinity negative => exact isLess
  | finite negative mantissa exponent =>
    cases negative with
    | true =>
      simp only [Dyadic.isLess, Bool.or_eq_true, decide_eq_true_eq] at isLess ⊢
      omega
    | false =>
      simp only [Dyadic.isLess, Nat.shiftLeft_eq, decide_eq_true_eq] at isLess ⊢
      exact Nat.lt_of_lt_of_le isLess (Nat.mul_le_mul_right _ le)

structure Ratio where
  numerator : Nat
  denominator : Nat
  deriving DecidableEq, Repr

def Ratio.ofDyadic (mantissa : Nat) (exponent : Int) : Ratio :=
  if 0 ≤ exponent then ⟨mantissa <<< exponent.toNat, 1⟩ else ⟨mantissa, 1 <<< (-exponent).toNat⟩

def Ratio.shift (r : Ratio) (places : Int) : Ratio :=
  if 0 ≤ places then ⟨r.numerator * Nat.pow 10 places.toNat, r.denominator⟩
  else ⟨r.numerator, r.denominator * Nat.pow 10 (-places).toNat⟩

def digitCount (n : Nat) : Nat :=
  if n = 0 then 0 else (Nat.toDigits 10 n).length

def Ratio.leadingExponent (r : Ratio) : Int :=
  if r.denominator ≤ r.numerator then digitCount (r.numerator / r.denominator) - 1
  else -(digitCount ((r.denominator - 1) / r.numerator) : Int)

end IndicatorScript.Decimal
