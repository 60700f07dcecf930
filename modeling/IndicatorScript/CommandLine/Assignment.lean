import IndicatorScript.Number.Double
import IndicatorScript.Text.Blank
import IndicatorScript.Value

/-!
# Parameter assignments

Parameters on the command line are written `NAME=VALUE`. The first equals sign divides them. White space around the
name is dropped; the value is a number if it reads as one, and otherwise a text as it stands.
-/

namespace IndicatorScript.CommandLine

def noAssignment (text : String) : String := "Expected NAME=VALUE, got " ++ Text.quoted text

def assignedValue (text : String) : Value Float :=
  match Decimal.read? text with
  | some x => .number x
  | none => .text text

def assignment? (text : String) : Option (String × Value Float) :=
  match text.toList.dropWhile (· ≠ '=') with
  | [] => none
  | _ :: value =>
      let name := Text.trim Text.isBlank (text.toList.takeWhile (· ≠ '='))
      some (String.ofList name, assignedValue (String.ofList value))

end IndicatorScript.CommandLine
