import IndicatorScript.Decimal.Shortest
import IndicatorScript.Frame

/-!
# Writing comma-separated values

Numbers are written with the fewest digits that read back, and a value that is missing or undefined as nothing.
-/

namespace IndicatorScript.Csv

def writtenText (text : String) : String :=
  let cs := text.toList
  if cs.any fun c => c = ',' || c = '"' || c = '\n' then
    String.ofList ('"' :: cs.flatMap (fun c => if c = '"' then ['"', '"'] else [c]) ++ ['"'])
  else text

def writtenNumber (x : Float) : String := if x.isNaN then "" else Decimal.shortest x

def writtenCell : Cell Float → String
  | .integer i => toString i
  | .number x => writtenNumber x
  | .flag b => if b then "True" else "False"
  | .text s => writtenText s
  | .missing => ""

def writtenLines (rows : List (List String)) : String :=
  String.join (rows.map fun fields => ",".intercalate fields ++ "\n")

end IndicatorScript.Csv
