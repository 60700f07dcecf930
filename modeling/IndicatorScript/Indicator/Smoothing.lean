import IndicatorScript.Number

/-!
# Exponential smoothing

The exponential moving average with the smoothing factor `2 / (length + 1)`. It begins at the first finite value of the
series. At a bar without one it stays where it is while its weight decays; the next finite value moves it to the mean of
the two, weighted by what is left of that weight and by the smoothing factor. At length three the factor is one half,
and the new value has what is missing from the old weight to one.

The convergence of two averages is their difference; its own average is the signal, and the distance from that the
histogram.
-/

namespace IndicatorScript.Indicator

open Number

variable {α : Type} [Number α]

/-- The smoothing factor, by way of the centre of mass `(length - 1) / 2` of the weights. -/
def smoothingFactor (length : Nat) : α := ofNat 1 / (ofNat 1 + ofNat (length - 1) / ofNat 2)

/-- The smoothing of a length: its factor, and whether the two weights add up to one after a gap too. -/
structure Smoothing (α : Type) where
  factor : α
  balanced : Bool

def Smoothing.ofLength (length : Nat) : Smoothing α := ⟨smoothingFactor length, length = 3⟩

structure Smoothed (α : Type) where
  average : α
  weight : α

/-- One bar later. An average that equals the new value is kept as it is. -/
def Smoothed.step (smoothing : Smoothing α) (state : Smoothed α) (x : α) : Smoothed α :=
  let weight := state.weight * (ofNat 1 - smoothing.factor)
  let share := if smoothing.balanced then ofNat 1 - weight else smoothing.factor
  if isFinite x then
    ⟨if equal state.average x then state.average
      else (weight * state.average + share * x) / (weight + share), ofNat 1⟩
  else ⟨state.average, weight⟩

def smooth (smoothing : Smoothing α) (state : Smoothed α) : List α → List α
  | [] => []
  | x :: rest => let next := state.step smoothing x; next.average :: smooth smoothing next rest

def smoothFromStart (smoothing : Smoothing α) : List α → List α
  | [] => []
  | x :: rest =>
      if isFinite x then x :: smooth smoothing ⟨x, ofNat 1⟩ rest else nan :: smoothFromStart smoothing rest

def ema (length : Nat) (series : List α) : List α := smoothFromStart (.ofLength length) series

@[simp] theorem length_smooth (smoothing : Smoothing α) (state : Smoothed α) (series : List α) :
    (smooth smoothing state series).length = series.length := by
  induction series generalizing state with
  | nil => rfl
  | cons x rest ih => simp [smooth, ih]

@[simp] theorem length_smoothFromStart (smoothing : Smoothing α) (series : List α) :
    (smoothFromStart smoothing series).length = series.length := by
  induction series with
  | nil => rfl
  | cons x rest ih =>
    rw [smoothFromStart]
    split
    · simp
    · simp [ih]

@[simp] theorem length_ema (length : Nat) (series : List α) : (ema length series).length = series.length :=
  length_smoothFromStart _ series

def signalLength : Nat := 9

def macdLine (fast slow : Nat) (series : List α) : List α :=
  List.zipWith (· - ·) (ema fast series) (ema slow series)

def macdSignal (fast slow : Nat) (signal : Nat) (series : List α) : List α :=
  ema signal (macdLine fast slow series)

def macdHistogram (fast slow : Nat) (signal : Nat) (series : List α) : List α :=
  List.zipWith (· - ·) (macdLine fast slow series) (macdSignal fast slow signal series)

end IndicatorScript.Indicator
