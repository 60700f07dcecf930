import IndicatorScript.Decimal.Rounded

/-!
# Shortest decimals

The fewest digits that read back as the same double, and among those the nearest to it. Numbers whose leading digit
stands at `10 ^ -4` to `10 ^ 15` are written positionally, with at least one digit after the point; the others in
scientific notation.
-/

namespace IndicatorScript.Decimal

structure Digits where
  digits : Nat
  unit : Int
  deriving DecidableEq, Repr

/-- The reals that round to a double, as bounds on four times the mantissa; the bounds belong to it when the mantissa
is even. Below a power of two the neighbour is only half as far away. -/
structure Basin where
  low : Nat
  high : Nat
  closed : Bool

def Basin.of (mantissa : Nat) (exponent : Int) : Basin :=
  { low := if mantissa = leadingBit ∧ leastExponent < exponent then 4 * mantissa - 1 else 4 * mantissa - 2
    high := 4 * mantissa + 2
    closed := mantissa % 2 = 0 }

def Basin.contains (basin : Basin) (exponent : Int) (decimal : Digits) : Bool :=
  let point := (Ratio.mk decimal.digits 1).shift decimal.unit
  let low := Ratio.ofDyadic basin.low (exponent - 2)
  let high := Ratio.ofDyadic basin.high (exponent - 2)
  let below := low.numerator * point.denominator
  let above := high.numerator * point.denominator
  let lowPoint := point.numerator * low.denominator
  let highPoint := point.numerator * high.denominator
  if basin.closed then below ≤ lowPoint && highPoint ≤ above else below < lowPoint && highPoint < above

/-- The decimal with this count of digits that is nearest to the double, if one reads back as it. Both neighbours of
the value on the grid are tried. -/
def ofCount? (mantissa : Nat) (exponent : Int) (count : Nat) : Option Digits :=
  let ratio := Ratio.ofDyadic mantissa exponent
  let unit := ratio.leadingExponent + 1 - count
  let scaled := ratio.shift (-unit)
  let nearest : Digits := ⟨scaled.round, unit⟩
  let floor := scaled.numerator / scaled.denominator
  let other : Digits := ⟨if nearest.digits = floor then floor + 1 else floor, unit⟩
  let basin := Basin.of mantissa exponent
  if basin.contains exponent nearest then some nearest
  else if basin.contains exponent other then some other
  else none

/-- Seventeen digits tell all doubles apart. -/
def shortestDigits (mantissa : Nat) (exponent : Int) : Digits :=
  ((List.range 17).findSome? fun count => ofCount? mantissa exponent (count + 1)).getD ⟨mantissa, 0⟩

def significant (decimal : Digits) : List Char :=
  ((Nat.toDigits 10 decimal.digits).reverse.dropWhile (· = '0')).reverse

def positional (digits : List Char) (leading : Int) : String :=
  if leading < 0 then
    String.ofList ('0' :: '.' :: List.replicate (-leading - 1).toNat '0' ++ digits)
  else
    let whole := leading.toNat + 1
    let fraction := digits.drop whole
    String.ofList (digits.take whole ++ List.replicate (whole - digits.length) '0' ++
      '.' :: (if fraction.isEmpty then ['0'] else fraction))

def shortest (x : Float) : String :=
  match Dyadic.ofFloat x with
  | .nan => "nan"
  | .infinity negative => if negative then "-inf" else "inf"
  | .finite negative mantissa exponent =>
      let sign := if negative then "-" else ""
      if mantissa = 0 then sign ++ "0.0"
      else
        let decimal := shortestDigits mantissa exponent
        let leading := digitCount decimal.digits - 1 + decimal.unit
        if -4 ≤ leading ∧ leading < 16 then sign ++ positional (significant decimal) leading
        else sign ++ scientific (significant decimal) leading

end IndicatorScript.Decimal
