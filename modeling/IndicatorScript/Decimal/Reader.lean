import IndicatorScript.Text.Blank

/-!
# Reading decimals

The text of a number as people type it: white space around it, a sign, digits with an optional point and exponent,
single underscores between digits, the digits of any script, and the names of infinity and of the undefined value in
any case. Hexadecimal is not read.
-/

namespace IndicatorScript.Decimal

def westernDigits (cs : List Char) : List Char :=
  (Text.trim Text.isNumberBlank cs).map fun c => ((Text.digitValue? c).map Nat.digitChar).getD c

/-- Takes out the underscores; each has to stand between two digits. -/
def dropUnderscores? (previous : Char) : List Char → Option (List Char)
  | [] => some []
  | '_' :: next :: rest =>
      if previous.isDigit && next.isDigit then (dropUnderscores? next rest).map (next :: ·) else none
  | ['_'] => none
  | c :: rest => (dropUnderscores? c rest).map (c :: ·)

def digitsValue (digits : List Char) : Nat :=
  digits.foldl (fun value c => 10 * value + (c.toNat - '0'.toNat)) 0

def takeSign : List Char → Bool × List Char
  | '-' :: rest => (true, rest)
  | '+' :: rest => (false, rest)
  | rest => (false, rest)

def exponent? : List Char → Option Int
  | [] => some 0
  | letter :: rest =>
      if letter = 'e' ∨ letter = 'E' then
        let (negative, digits) := takeSign rest
        if digits.isEmpty || !digits.all Char.isDigit then none
        else some (if negative then -(digitsValue digits : Int) else digitsValue digits)
      else none

def magnitude? (cs : List Char) : Option (Nat × Int) :=
  let whole := cs.takeWhile Char.isDigit
  let (fraction, rest) := match cs.dropWhile Char.isDigit with
    | '.' :: rest => (rest.takeWhile Char.isDigit, rest.dropWhile Char.isDigit)
    | rest => ([], rest)
  if whole.isEmpty && fraction.isEmpty then none
  else (exponent? rest).map fun power => (digitsValue (whole ++ fraction), power - fraction.length)

/-- A power of ten that no double reaches, and whose inverse is below all positive doubles. -/
def farPower : Nat := 400

/-- The double nearest to `digits * 10 ^ power`. Powers that are too far away for doubles are not computed. -/
def toFloat (digits : Nat) (power : Int) : Float :=
  if digits = 0 then 0.0
  else if (farPower : Int) < power then 1.0 / 0.0
  else if power + (digits.log2 / 3 + 1 : Nat) < -(farPower : Int) then 0.0
  else Float.ofScientific digits (power < 0) power.natAbs

def ofWord? (word : String) : Option Float :=
  if word = "inf" ∨ word = "infinity" then some (1.0 / 0.0)
  else if word = "nan" then some (0.0 / 0.0)
  else none

def read? (text : String) : Option Float := do
  let cs ← dropUnderscores? ' ' (westernDigits text.toList)
  let (negative, rest) := takeSign cs
  let magnitude ← match ofWord? (String.ofList (rest.map Char.toLower)) with
    | some x => some x
    | none => (magnitude? rest).map fun (digits, power) => toFloat digits power
  return if negative then -magnitude else magnitude

end IndicatorScript.Decimal
