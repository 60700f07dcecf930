import IndicatorScript.Yaml.Time

/-!
# Tags

The type of a node. A node without a tag has the type of its form: a plain scalar is what its text looks like in YAML
1.1, and a text otherwise.
-/

namespace IndicatorScript.Yaml

inductive Tag where
  | null | boolean | integer | number | octets | time | text
  | sequence | mapping | set | orderedMap | pairs
  /-- The key whose value is merged into a mapping. -/
  | merge
  /-- The key whose value stands for a mapping. -/
  | value
  | other (name : String)
  deriving DecidableEq, Repr

namespace Tag

def common : String := "tag:yaml.org,2002:"

def commonNames : List (Tag × String) :=
  [ (.null, "null"), (.boolean, "bool"), (.integer, "int"), (.number, "float"), (.octets, "binary"),
    (.time, "timestamp"), (.text, "str"), (.sequence, "seq"), (.mapping, "map"), (.set, "set"),
    (.orderedMap, "omap"), (.pairs, "pairs"), (.merge, "merge"), (.value, "value") ]

def ofName (name : String) : Tag :=
  match commonNames.find? fun (_, short) => common ++ short = name with
  | some (tag, _) => tag
  | none => .other name

def name : Tag → String
  | .other name => name
  | tag => common ++ (commonNames.lookup tag).getD ""

/-! ## Forms of numbers -/

def isHexDigit (c : Char) : Bool := c.isDigit || ('a' ≤ c && c ≤ 'f') || ('A' ≤ c && c ≤ 'F')

def isSpaced (isDigit : Char → Bool) (cs : List Char) : Bool :=
  !cs.isEmpty && cs.all fun c => isDigit c || c = '_'

def isDigits : List Char → Bool
  | [] => false
  | c :: rest => c.isDigit && rest.all fun d => d.isDigit || d = '_'

def colonParts (cs : List Char) : List (List Char) :=
  cs.foldr (fun c parts =>
    match parts with
    | part :: rest => if c = ':' then [] :: part :: rest else (c :: part) :: rest
    | [] => [[c]]) [[]]

def isSixtieth : List Char → Bool
  | [d] => d.isDigit
  | [t, d] => '0' ≤ t && t ≤ '5' && d.isDigit
  | _ => false

def dropSign : List Char → List Char
  | c :: rest => if c = '-' ∨ c = '+' then rest else c :: rest
  | [] => []

def isNatural (cs : List Char) : Bool :=
  match cs with
  | '0' :: 'b' :: rest => isSpaced (fun c => c = '0' || c = '1') rest
  | '0' :: 'x' :: rest => isSpaced isHexDigit rest
  | '0' :: rest => rest.all fun c => ('0' ≤ c && c ≤ '7') || c = '_'
  | cs =>
      match colonParts cs with
      | first :: rest => isDigits first && rest.all isSixtieth
      | [] => false

def isExponent : List Char → Bool
  | [] => true
  | e :: sign :: rest =>
      (e = 'e' || e = 'E') && (sign = '-' || sign = '+') && !rest.isEmpty && rest.all Char.isDigit
  | _ => false

def isDigitOrSpace (c : Char) : Bool := c.isDigit || c = '_'

def isFraction (cs : List Char) : Bool :=
  let whole := cs.takeWhile isDigitOrSpace
  match cs.drop whole.length with
  | '.' :: rest => isDigits whole && isExponent (rest.dropWhile isDigitOrSpace)
  | _ => false

def isProperFraction : List Char → Bool
  | '.' :: rest => isDigits (rest.takeWhile isDigitOrSpace) && isExponent (rest.dropWhile isDigitOrSpace)
  | _ => false

def isSixtyFraction (cs : List Char) : Bool :=
  let whole := cs.takeWhile (· ≠ '.')
  match cs.drop whole.length with
  | '.' :: rest =>
      match colonParts whole with
      | first :: second :: others =>
          isDigits first && (second :: others).all isSixtieth && rest.all isDigitOrSpace
      | _ => false
  | _ => false

def infinityWords : List String := [".inf", ".Inf", ".INF"]

def undefinedWords : List String := [".nan", ".NaN", ".NAN"]

def isNumber (cs : List Char) : Bool :=
  let unsigned := dropSign cs
  isFraction unsigned || isProperFraction cs || isSixtyFraction unsigned ||
    infinityWords.contains (String.ofList unsigned) || undefinedWords.contains (String.ofList cs)

/-! ## Plain scalars -/

def truthWords : List String :=
  ["yes", "Yes", "YES", "no", "No", "NO", "true", "True", "TRUE", "false", "False", "FALSE", "on", "On", "ON",
    "off", "Off", "OFF"]

def nullWords : List String := ["~", "null", "Null", "NULL"]

def ofForm (cs : List Char) : Tag :=
  let word := String.ofList cs
  if truthWords.contains word then .boolean
  else if isNumber cs then .number
  else if isNatural (dropSign cs) then .integer
  else if word = "<<" then .merge
  else if nullWords.contains word then .null
  else if Time.isTime cs then .time
  else if word = "=" then .value
  else if word = "!" ∨ word = "&" ∨ word = "*" then .other (common ++ "yaml")
  else .text

def withoutBreak (cs : List Char) : List Char :=
  match cs with
  | [_] => cs
  | cs => if cs.getLast? = some '\n' then cs.dropLast else cs

def ofPlain (text : String) : Tag :=
  if text.isEmpty then .null else ofForm (withoutBreak text.toList)

end Tag

end IndicatorScript.Yaml
