import IndicatorScript.Bar
import IndicatorScript.Indicator.Bands
import IndicatorScript.Indicator.Smoothing
import IndicatorScript.Indicator.Strength

/-!
# Built-in functions

The functions that a script can call. Each has a signature: the kinds of its parameters, how many of them a call has to
give, and whether it produces a series. Kind inference and evaluation both go by this table.
-/

namespace IndicatorScript

inductive Parameter where
  /-- A series; a number stands for one that never changes. -/
  | series
  /-- A whole number from one. -/
  | length
  | number
  | string
  | any
  deriving DecidableEq, Repr

inductive Produces where
  | series | scalar | elementwise
  deriving DecidableEq, Repr

structure Signature where
  parameters : List Parameter
  produces : Produces
  /-- How many arguments a call has to give. -/
  required : Nat := parameters.length
  deriving DecidableEq, Repr

def Signature.accepts (signature : Signature) (count : Nat) : Bool :=
  signature.required ≤ count && count ≤ signature.parameters.length

def Signature.countText (signature : Signature) : String :=
  if signature.required = signature.parameters.length then toString signature.parameters.length
  else toString signature.required ++ " to " ++ toString signature.parameters.length

inductive Windowed where
  | sma | ema | rsi | stdev | highest | lowest
  deriving DecidableEq, Repr

inductive Convergence where
  | line | signal | histogram
  deriving DecidableEq, Repr

inductive Band where
  | upper | middle | lower
  deriving DecidableEq, Repr

inductive Choice where
  | max | min
  deriving DecidableEq, Repr

def Choice.fullName : Choice → String
  | .max => "maximum"
  | .min => "minimum"

inductive Builtin where
  | price (column : Price)
  | composite (average : Composite)
  | windowed (indicator : Windowed)
  | convergence (part : Convergence)
  | band (line : Band)
  | magnitude
  | choice (which : Choice)
  /-- A parameter of the caller, with a default. -/
  | input
  deriving DecidableEq, Repr

namespace Builtin

def signature : Builtin → Signature
  | price _ | composite _ => { parameters := [], produces := .series }
  | windowed _ => { parameters := [.series, .length], produces := .series }
  | convergence _ => { parameters := [.series, .length, .length], produces := .series }
  | band _ => { parameters := [.series, .length, .number], produces := .series }
  | magnitude => { parameters := [.number], produces := .elementwise }
  | choice _ => { parameters := [.number, .number], produces := .elementwise }
  | input => { parameters := [.string, .any], produces := .scalar, required := 1 }

def table : List (String × Builtin) :=
  [ ("close", price .close), ("open", price .opening), ("high", price .high), ("low", price .low),
    ("volume", price .volume),
    ("hl2", composite .highLow), ("hlc3", composite .highLowClose), ("ohlc4", composite .openHighLowClose),
    ("sma", windowed .sma), ("ema", windowed .ema), ("rsi", windowed .rsi), ("stdev", windowed .stdev),
    ("highest", windowed .highest), ("lowest", windowed .lowest),
    ("macd", convergence .line), ("macd_line", convergence .line), ("macd_signal", convergence .signal),
    ("macd_histogram", convergence .histogram),
    ("bb_upper", band .upper), ("bb_middle", band .middle), ("bb_lower", band .lower),
    ("abs", magnitude), ("max", choice .max), ("min", choice .min), ("input", input) ]

def ofName? (name : String) : Option Builtin := table.lookup name

end Builtin

section Apply

variable {α : Type} [Number α]

def Windowed.apply (indicator : Windowed) (length : Nat) (series : List α) : List α :=
  match indicator with
  | .sma => Indicator.sma length series
  | .ema => Indicator.ema length series
  | .rsi => Indicator.rsi length series
  | .stdev => Indicator.stdev length series
  | .highest => Indicator.highest length series
  | .lowest => Indicator.lowest length series

def Convergence.apply (part : Convergence) (fast slow signal : Nat) (series : List α) : List α :=
  match part with
  | .line => Indicator.macdLine fast slow series
  | .signal => Indicator.macdSignal fast slow signal series
  | .histogram => Indicator.macdHistogram fast slow signal series

def Band.apply (line : Band) (length : Nat) (multiple : α) (series : List α) : List α :=
  match line with
  | .upper => Indicator.bandUpper length multiple series
  | .middle => Indicator.bandMiddle length multiple series
  | .lower => Indicator.bandLower length multiple series

def Choice.apply (which : Choice) (x y : α) : α :=
  match which with
  | .max => Number.max x y
  | .min => Number.min x y

end Apply

end IndicatorScript
