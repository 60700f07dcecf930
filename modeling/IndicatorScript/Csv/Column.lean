import IndicatorScript.Frame
import IndicatorScript.Number.Double

/-!
# Columns of text

The words of a column decide together what they are read as: whole numbers, numbers, truth values, or texts. Some
words stand for a missing value in every column. Whole numbers have to fit into words of sixty-four bits; where one of
them does not, the column is read once more without signs. A decimal is read as the double nearest to it, as current
releases of the table reader do; older ones are off in the last digit now and then.
-/

namespace IndicatorScript.Csv

def missingWords : List String :=
  [ "", "#N/A", "#N/A N/A", "#NA", "-1.#IND", "-1.#QNAN", "-NaN", "-nan", "1.#IND", "1.#QNAN", "<NA>", "N/A", "NA",
    "NULL", "NaN", "None", "n/a", "nan", "null" ]

def isMissing (word : String) : Bool := missingWords.contains word

def isSpace (c : Char) : Bool := c = ' ' || (9 ≤ c.toNat && c.toNat ≤ 13)

/-! ## Whole numbers -/

inductive Unwhole where
  | notWhole
  | tooLarge
  deriving DecidableEq, Repr

/-- The digits at the start of a word with nothing but white space after them. Digits that are too many are noticed
before what follows them. -/
def digits (largest : Nat) (cs : List Char) : Except Unwhole Nat :=
  let digits := cs.takeWhile Char.isDigit
  if digits.isEmpty then .error .notWhole
  else if largest < Decimal.digitsValue digits then .error .tooLarge
  else if (cs.drop digits.length).all isSpace then .ok (Decimal.digitsValue digits)
  else .error .notWhole

def greatestSigned : Nat := (1 <<< 63) - 1

def greatestUnsigned : Nat := (1 <<< 64) - 1

def signed (word : String) : Except Unwhole Int :=
  let (negative, rest) := Decimal.takeSign (word.toList.dropWhile isSpace)
  if negative then (digits (greatestSigned + 1) rest).map fun n => -(n : Int)
  else (digits greatestSigned rest).map fun n => (n : Int)

def unsigned (word : String) : Except Unwhole (Option Nat) :=
  match word.toList.dropWhile isSpace with
  | '-' :: _ => .ok none
  | '+' :: rest => (digits greatestUnsigned rest).map some
  | rest => (digits greatestUnsigned rest).map some

/-! ## Numbers and truth values -/

def infinity? (word : String) : Option Float :=
  let (negative, rest) := Decimal.takeSign word.toList
  let name := (String.ofList rest).toLower
  if name = "inf" ∨ name = "infinity" then some (if negative then -(1.0 / 0.0) else 1.0 / 0.0) else none

def decimal? (word : String) : Option Float :=
  let (negative, rest) := Decimal.takeSign (Text.trim isSpace word.toList)
  match Decimal.magnitude? rest with
  | none => none
  | some (digits, power) =>
      let x := Decimal.toFloat digits power
      if x.isInf then none else some (if negative then -x else x)

def number? (word : String) : Option Float := (decimal? word).or (infinity? word)

def flag? (word : String) : Option Bool :=
  if word.toLower = "true" then some true
  else if word.toLower = "false" then some false
  else none

/-! ## Columns -/

def present (words : List String) : List String := words.filter (!isMissing ·)

def cellsWith (absent : Cell Float) (read : String → Cell Float) (words : List String) : List (Cell Float) :=
  words.map fun word => if isMissing word then absent else read word

def texts (words : List String) : List (Cell Float) := cellsWith .missing .text words

def ordinaryCells (words : List String) : List (Cell Float) :=
  if (present words).all fun word => (number? word).isSome then
    cellsWith (.number Number.nan) (fun word => .number ((number? word).getD Number.nan)) words
  else if (present words).all fun word => (flag? word).isSome then
    cellsWith .missing (fun word => .flag ((flag? word).getD false)) words
  else texts words

/-- A whole number among missing ones. The least of all is taken for a missing one. -/
def besideMissing (i : Int) : Float :=
  if i = -(greatestSigned : Int) - 1 then Number.nan else (Number.ofInt? i).getD Number.nan

/-- The cells of a column with a whole number that is too large for a sign. Such numbers go together neither with
negative nor with missing ones. -/
def unsignedCells (words : List String) : List (Cell Float) :=
  match (present words).mapM unsigned with
  | .error .notWhole => ordinaryCells words
  | .error .tooLarge => texts words
  | .ok values =>
      let hasLarge := values.any fun value => value.any (greatestSigned < ·)
      let hasSigned := values.contains none
      if hasLarge && (hasSigned || words.any isMissing) then words.map .text
      else if hasSigned then texts words
      else values.map fun value => .integer (value.getD 0)

def cells (words : List String) : List (Cell Float) :=
  match (present words).mapM signed with
  | .error .notWhole => ordinaryCells words
  | .error .tooLarge => unsignedCells words
  | .ok _ =>
      let value (word : String) : Int := (signed word).toOption.getD 0
      if words.any isMissing then
        cellsWith (.number Number.nan) (fun word => .number (besideMissing (value word))) words
      else words.map fun word => .integer (value word)

end IndicatorScript.Csv
