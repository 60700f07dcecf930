import IndicatorScript.Number

/-!
# Sums

Sums whose rounding errors grow with the logarithm of the count of the terms. A short list is added from the left; a
longer one in eight lanes, which are added in pairs; a very long one is split in halves.
-/

namespace IndicatorScript.Number

variable {α : Type} [Number α]

def chain (start : α) (xs : List α) : α := xs.foldl (· + ·) start

def lanes (sums : List α) (xs : List α) : List α × List α :=
  if 8 ≤ xs.length then lanes (List.zipWith (· + ·) sums (xs.take 8)) (xs.drop 8) else (sums, xs)
  termination_by xs.length
  decreasing_by simp; omega

def lanesSum (xs : List α) : α :=
  match lanes (xs.take 8) (xs.drop 8) with
  | ([a, b, c, d, e, f, g, h], rest) => chain (((a + b) + (c + d)) + ((e + f) + (g + h))) rest
  | (sums, rest) => chain (ofNat 0) (sums ++ rest)

def sum (xs : List α) : α :=
  if xs.length < 8 then chain (ofNat 0) xs
  else if xs.length ≤ 128 then lanesSum xs
  else
    let half := xs.length / 2 - xs.length / 2 % 8
    sum (xs.take half) + sum (xs.drop half)
  termination_by xs.length
  decreasing_by all_goals (simp; omega)

end IndicatorScript.Number
