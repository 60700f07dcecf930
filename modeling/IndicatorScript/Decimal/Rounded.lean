import IndicatorScript.Decimal.Dyadic

/-!
# Rounded decimals

Scientific notation with a fixed count of digits after the point. The value is rounded to the nearest such decimal,
a tie going to the even neighbour.
-/

namespace IndicatorScript.Decimal

def Ratio.round (r : Ratio) : Nat :=
  let quotient := r.numerator / r.denominator
  let remainder := r.numerator % r.denominator
  if 2 * remainder < r.denominator then quotient
  else if r.denominator < 2 * remainder then quotient + 1
  else quotient + quotient % 2

def exponentText (exponent : Int) : String :=
  let digits := toString exponent.natAbs
  (if exponent < 0 then "e-" else "e+") ++ (if digits.length < 2 then "0" else "") ++ digits

def scientific (digits : List Char) (exponent : Int) : String :=
  match digits with
  | [] => "0" ++ exponentText exponent
  | [d] => String.ofList [d] ++ exponentText exponent
  | d :: rest => String.ofList (d :: '.' :: rest) ++ exponentText exponent

def rounded (places : Nat) (x : Float) : String :=
  match Dyadic.ofFloat x with
  | .nan => "nan"
  | .infinity negative => if negative then "-inf" else "inf"
  | .finite negative mantissa exponent =>
      if mantissa = 0 then scientific (List.replicate (places + 1) '0') 0
      else
        let ratio := Ratio.ofDyadic mantissa exponent
        let leading := ratio.leadingExponent
        let digits := (ratio.shift (places - leading)).round
        let sign := if negative then "-" else ""
        if digits = Nat.pow 10 (places + 1) then
          sign ++ scientific (Nat.toDigits 10 (Nat.pow 10 places)) (leading + 1)
        else sign ++ scientific (Nat.toDigits 10 digits) leading

end IndicatorScript.Decimal
