import IndicatorScript.Yaml.Time

/-!
# YAML values

What the nodes of a document stand for. A collection is known by the number of its node, so that it can hold itself.
-/

namespace IndicatorScript.Yaml

inductive Value where
  | null
  | boolean (b : Bool)
  | integer (i : Int)
  | number (x : Float)
  | text (s : String)
  | octets (count : Nat)
  | date (d : Date)
  | moment (m : Moment)
  | sequence (position : Nat)
  | mapping (position : Nat)
  | set (position : Nat)

def Value.typeName : Value → String
  | .null => "NoneType"
  | .boolean _ => "bool"
  | .integer _ => "int"
  | .number _ => "float"
  | .text _ => "str"
  | .octets _ => "bytes"
  | .date _ => "date"
  | .moment _ => "datetime"
  | .sequence _ => "list"
  | .mapping _ => "dict"
  | .set _ => "set"

def Value.fullTypeName (value : Value) : String :=
  match value with
  | .date _ | .moment _ => "datetime." ++ value.typeName
  | _ => value.typeName

def Value.isKey : Value → Bool
  | .sequence _ | .mapping _ | .set _ => false
  | _ => true

end IndicatorScript.Yaml
