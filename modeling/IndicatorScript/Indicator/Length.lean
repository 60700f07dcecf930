/-!
# Lengths

Which whole numbers are the length of a window, and which of a smoothing. A window may be empty, and then nothing is
defined in it; scripts ask for lengths of one or more anyway.
-/

namespace IndicatorScript.Indicator

inductive LengthError where
  | negativeWindow
  | emptySmoothing
  deriving DecidableEq, Repr

def LengthError.message : LengthError → String
  | .negativeWindow => "min_periods must be >= 0"
  | .emptySmoothing => "span must satisfy: span >= 1"

def windowLength (length : Int) : Except LengthError Nat :=
  if length < 0 then .error .negativeWindow else .ok length.toNat

def smoothingLength (length : Int) : Except LengthError Nat :=
  if length < 1 then .error .emptySmoothing else .ok length.toNat

end IndicatorScript.Indicator
