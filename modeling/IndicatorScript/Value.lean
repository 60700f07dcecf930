import IndicatorScript.Decimal.Shortest
import IndicatorScript.Number
import IndicatorScript.Text.Quoted

/-!
# Values

What scalar expressions yield and callers pass as parameters. A parameter keeps the type it was given as until a number
is needed.
-/

namespace IndicatorScript

inductive Value (α : Type) where
  | number (x : α)
  | integer (i : Int)
  | text (s : String)
  | boolean (b : Bool)
  | none
  deriving Repr

namespace Value

def typeName {α : Type} : Value α → String
  | .number _ => "float"
  | .integer _ => "int"
  | .text _ => "str"
  | .boolean _ => "bool"
  | .none => "NoneType"

def shown : Value Float → String
  | .number x => Decimal.shortest x
  | .integer i => toString i
  | .text s => Text.quoted s
  | .boolean b => if b then "True" else "False"
  | .none => "None"

end Value

end IndicatorScript
