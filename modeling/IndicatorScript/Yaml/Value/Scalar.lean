import IndicatorScript.Decimal.Reader
import IndicatorScript.Yaml.Tag
import IndicatorScript.Yaml.Token.Property

/-!
# The values of scalars

What the text of a scalar says, read as the type that its tag names. Underscores in numbers count for nothing.
-/

namespace IndicatorScript.Yaml.Scalar

def withoutSpacing (text : String) : List Char := text.toList.filter (· ≠ '_')

/-! ## Numbers -/

def digitValue? (c : Char) : Option Nat :=
  if c.isDigit then some (c.toNat - '0'.toNat)
  else if 'a' ≤ c ∧ c ≤ 'z' then some (c.toNat - 'a'.toNat + 10)
  else if 'A' ≤ c ∧ c ≤ 'Z' then some (c.toNat - 'A'.toNat + 10)
  else none

def dropBase (base : Nat) (digits : List Char) : List Char :=
  match digits with
  | '0' :: letter :: rest =>
      let c := letter.toLower
      if (base = 2 ∧ c = 'b') ∨ (base = 8 ∧ c = 'o') ∨ (base = 16 ∧ c = 'x') then rest else digits
  | digits => digits

def mostDigits : Nat := 4300

def integerIn (base : Nat) (text : List Char) : Except Misfit Int :=
  let (negative, rest) := Decimal.takeSign (Decimal.westernDigits text)
  let rest := dropBase base rest
  let digits := rest.takeWhile fun c => (digitValue? c).any (· < base)
  if base = 10 ∧ mostDigits < digits.length then .error (.tooManyDigits digits.length)
  else if digits.isEmpty ∨ digits.length < rest.length then .error (.notInteger base (String.ofList text))
  else
    let magnitude : Int := digits.foldl (fun value c => base * value + (digitValue? c).getD 0) 0
    .ok (if negative then -magnitude else magnitude)

def signed (cs : List Char) : Except Misfit (Bool × List Char) :=
  match cs with
  | [] => .error .noNumber
  | _ => .ok (Decimal.takeSign cs)

def sixtieths (parts : List Int) : Int := parts.foldl (fun value part => 60 * value + part) 0

def integer (text : String) : Except Misfit Int := do
  let (negative, rest) ← signed (withoutSpacing text)
  let magnitude ←
    match rest with
    | [] => .error .noNumber
    | ['0'] => .ok 0
    | '0' :: 'b' :: digits => integerIn 2 digits
    | '0' :: 'x' :: digits => integerIn 16 digits
    | '0' :: _ => integerIn 8 rest
    | _ =>
        if rest.contains ':' then do
          .ok (sixtieths (← (Tag.colonParts rest).mapM (integerIn 10)))
        else integerIn 10 rest
  .ok (if negative then -magnitude else magnitude)

def numberOf (text : List Char) : Except Misfit Float :=
  match Decimal.read? (String.ofList text) with
  | some x => .ok x
  | none => .error (.notNumber (String.ofList text))

def sixtyFraction (parts : List Float) : Except Misfit Float := do
  let scaled ← parts.zipIdx.mapM fun (part, place) =>
    let scale := Float.ofNat (Nat.pow 60 place)
    if scale.isFinite then .ok (part * scale) else .error .tooManyPlaces
  .ok (scaled.foldl (· + ·) 0.0)

def number (text : String) : Except Misfit Float := do
  let (negative, rest) ← signed ((withoutSpacing text).map Char.toLower)
  let word := String.ofList rest
  let magnitude ←
    if word = ".inf" then .ok (1.0 / 0.0)
    else if word = ".nan" then .ok (0.0 / 0.0)
    else if rest.contains ':' then do sixtyFraction (← (Tag.colonParts rest).mapM numberOf).reverse
    else numberOf rest
  .ok (if negative then -magnitude else magnitude)

/-! ## Truth values and times -/

def trueWords : List String := ["yes", "true", "on"]

def falseWords : List String := ["no", "false", "off"]

def boolean (text : String) : Except Misfit Bool :=
  let word := text.map Char.toLower
  if trueWords.contains word then .ok true
  else if falseWords.contains word then .ok false
  else .error (.notTruthValue word)

def time (text : String) : Except Misfit (Date ⊕ Moment) :=
  match Time.fields? (Tag.withoutBreak text.toList) with
  | none => .error .notTime
  | some (.inl date) => date.check.map .inl
  | some (.inr moment) => moment.check.map .inr

/-! ## Octets -/

def isSextet (c : Char) : Bool :=
  c.isDigit || ('A' ≤ c && c ≤ 'Z') || ('a' ≤ c && c ≤ 'z') || c = '+' || c = '/'

/-- How many octets the characters of a text stand for: three for every four of them. Other characters count for
nothing; padding that completes the last four ends the text. -/
def octetCountFrom (sextets pads : Nat) : List Char → Except String Nat
  | [] =>
      if sextets % 4 = 0 then .ok (sextets / 4 * 3)
      else if sextets % 4 = 1 then
        .error ("Invalid base64-encoded string: number of data characters (" ++ toString sextets ++
          ") cannot be 1 more than a multiple of 4")
      else .error "Incorrect padding"
  | c :: rest =>
      if c = '=' then
        if 2 ≤ sextets % 4 then
          if 4 ≤ sextets % 4 + pads + 1 then .ok (sextets / 4 * 3 + (sextets % 4 - 1))
          else octetCountFrom sextets (pads + 1) rest
        else octetCountFrom sextets pads rest
      else if isSextet c then octetCountFrom (sextets + 1) 0 rest
      else octetCountFrom sextets pads rest

def codeText (c : Char) : String :=
  let (letter, width) := if c.toNat < 0x100 then ('x', 2) else if c.toNat < 0x10000 then ('u', 4) else ('U', 8)
  String.ofList ('\\' :: letter :: Text.hexDigits width c.toNat)

def foreignText (cs : List Char) : String :=
  let isForeign (c : Char) : Bool := 0x80 ≤ c.toNat
  let position := (cs.takeWhile (!isForeign ·)).length
  let foreign := (cs.drop position).takeWhile isForeign
  "'ascii' codec can't encode " ++
    (match foreign with
      | [c] => "character '" ++ codeText c ++ "' in position " ++ toString position
      | _ =>
          "characters in position " ++ toString position ++ "-" ++ toString (position + foreign.length - 1)) ++
    ": ordinal not in range(128)"

def octetCount (text : String) : Except String Nat :=
  if text.toList.any (0x80 ≤ ·.toNat) then
    .error ("failed to convert base64 data into ascii: " ++ foreignText text.toList)
  else
    match octetCountFrom 0 0 text.toList with
    | .ok count => .ok count
    | .error reason => .error ("failed to decode base64 data: " ++ reason)

end IndicatorScript.Yaml.Scalar
