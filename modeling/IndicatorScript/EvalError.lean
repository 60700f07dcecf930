import IndicatorScript.Builtin
import IndicatorScript.Fault
import IndicatorScript.Limit
import IndicatorScript.Value

/-!
# Evaluation errors

Why running a script fails. Some causes are no fault of the script and have no class among the faults: an integer
parameter beyond the range of the numbers, a comparison of series of different lengths, which only a series that a
caller has stored can lead to, a limit that is no number, and what comes of several columns of one price.
-/

namespace IndicatorScript

inductive ColumnError where
  /-- Columns of one name would have to change places. -/
  | repeatedNames
  | besideSeries (which : Choice)
  /-- A position in several columns has several numbers. -/
  | severalNumbers
  | truthOfSeveral
  | sequenceAsNumber
  | outOfRange (index size : Nat)
  deriving DecidableEq, Repr

def ColumnError.message : ColumnError → String
  | .repeatedNames => "cannot reindex on an axis with duplicate labels"
  | .besideSeries which =>
      "Cannot apply ufunc <ufunc '" ++ which.fullName ++ "'> to mixed DataFrame and Series inputs."
  | .severalNumbers => "cannot convert the series to <class 'float'>"
  | .truthOfSeveral =>
      "The truth value of an array with more than one element is ambiguous. Use a.any() or a.all()"
  | .sequenceAsNumber => "setting an array element with a sequence."
  | .outOfRange index size =>
      "index " ++ toString index ++ " is out of bounds for axis 0 with size " ++ toString size

inductive EvalError (α : Type) where
  | undefinedVariable (name : String)
  | undefinedFunction (name : String)
  | undefinedSeries (name : String)
  | wrongCount (function : String) (signature : Signature) (count : Nat)
  | notLength (value : Value α)
  | notNumber (value : Value α)
  | notText (function : String) (value : Value α)
  | seriesAsScalar (function : String)
  | fractionalIndex (index : α)
  | lengthsDiffer (lengths : List Nat)
  | divisionByZero
  | unknownOperator (symbol : String)
  | outOfBounds (index : Int) (length : Nat) (series : String)
  | tooManyStatements (count : Nat) (limit : Limit)
  | tooManyBars (count : Nat) (limit : Limit)
  | integerTooLarge
  | incomparableLengths
  | incomparableLimit (typeName : String)
  | severalColumns
  | columns (e : ColumnError)

namespace EvalError

def fault? {α : Type} : EvalError α → Option Fault
  | undefinedVariable _ => some .undefinedVariable
  | undefinedFunction _ => some .undefinedFunction
  | undefinedSeries _ => some .undefinedSeries
  | wrongCount .. | notLength _ => some .invalidArguments
  | notNumber _ | notText .. | seriesAsScalar _ | fractionalIndex _ | lengthsDiffer _ | severalColumns =>
      some .invalidOperands
  | divisionByZero => some .divisionByZero
  | unknownOperator _ => some .unknownOperator
  | outOfBounds .. => some .indexOutOfBounds
  | tooManyStatements .. | tooManyBars .. => some .resourceLimit
  | integerTooLarge | incomparableLengths | incomparableLimit _ | columns _ => none

/-- The whole number that the message of an error shows as it was given. -/
def shownInteger? {α : Type} : EvalError α → Option Int
  | notLength (.integer i) | notNumber (.integer i) | notText _ (.integer i) => some i
  | tooManyStatements _ (.whole bound) | tooManyBars _ (.whole bound) => some bound
  | _ => none

def detail? : EvalError Float → Option String
  | undefinedVariable name | undefinedFunction name | undefinedSeries name => some name
  | wrongCount function signature count =>
      some (function ++ "() takes " ++ signature.countText ++ " arguments, got " ++ toString count)
  | notLength value => some ("length must be a whole number >= 1, got " ++ value.shown)
  | notNumber value => some ("expected a number, got " ++ value.typeName ++ " " ++ value.shown)
  | notText function value => some (function ++ "() expects a string, got " ++ value.shown)
  | seriesAsScalar function => some (function ++ "() produces a series, not a scalar")
  | fractionalIndex index => some ("series index must be a whole number, got " ++ Decimal.shortest index)
  | lengthsDiffer lengths => some ("series lengths differ: " ++ Text.bracketed (lengths.map toString))
  | divisionByZero => none
  | unknownOperator symbol => some symbol
  | outOfBounds index length series =>
      some ("index " ++ toString index ++ " outside [0, " ++ toString length ++ ") for " ++ Text.quoted series)
  | tooManyStatements count limit =>
      some (toString count ++ " statements exceeds the limit of " ++ limit.shown)
  | tooManyBars count limit => some (toString count ++ " bars exceeds the limit of " ++ limit.shown)
  | integerTooLarge => some "int too large to convert to float"
  | incomparableLengths => some "Can only compare identically-labeled Series objects"
  | incomparableLimit typeName => some (Limit.incomparableText typeName)
  | severalColumns => some "expected a number, got DataFrame"
  | columns e => some e.message

def message (e : EvalError Float) : String :=
  match e.fault? with
  | some fault => fault.message e.detail?
  | none => e.detail?.getD ""

end EvalError

end IndicatorScript
