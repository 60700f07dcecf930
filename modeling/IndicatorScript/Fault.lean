/-!
# Faults

The classes of failure that a script can meet, the stable name of each, and the text that reports it: the description
of the class, and the message of the failure where there is one.
-/

namespace IndicatorScript

inductive Fault where
  | script
  | syntaxError
  | undefinedVariable
  | undefinedFunction
  | undefinedSeries
  | invalidArguments
  | invalidOperands
  | divisionByZero
  | unknownOperator
  | indexOutOfBounds
  | resourceLimit
  deriving DecidableEq, Repr

namespace Fault

def name : Fault → String
  | .script => "DSLError"
  | .syntaxError => "SyntaxError"
  | .undefinedVariable => "UndefinedVariable"
  | .undefinedFunction => "UndefinedFunction"
  | .undefinedSeries => "UndefinedSeries"
  | .invalidArguments => "InvalidArguments"
  | .invalidOperands => "InvalidOperands"
  | .divisionByZero => "DivisionByZero"
  | .unknownOperator => "UnknownOperator"
  | .indexOutOfBounds => "IndexOutOfBounds"
  | .resourceLimit => "ResourceLimit"

def description : Fault → String
  | .script => "Script error"
  | .syntaxError => "Syntax error"
  | .undefinedVariable => "Undefined variable"
  | .undefinedFunction => "Undefined function"
  | .undefinedSeries => "Undefined series"
  | .invalidArguments => "Invalid function arguments"
  | .invalidOperands => "Invalid operands for operation"
  | .divisionByZero => "Division by zero"
  | .unknownOperator => "Unknown operator"
  | .indexOutOfBounds => "Index out of bounds"
  | .resourceLimit => "Resource limit exceeded"

/-- The report of a failure. An empty message counts as none. -/
def message (fault : Fault) (detail : Option String) : String :=
  match detail with
  | none | some "" => fault.description
  | some detail => fault.description ++ ": " ++ detail

def located (detail : String) (line : Int) : String :=
  detail ++ " (line " ++ toString line ++ ")"

end Fault

end IndicatorScript
