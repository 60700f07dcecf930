import IndicatorScript.Indicator.Running

/-!
# Rolling statistics

A statistic of the last `length` values at each bar. It is defined where the bar has that many values behind it, itself
included, and all of them are finite. A window of equal values has exactly that value as its mean and no deviation at
all.
-/

namespace IndicatorScript.Indicator

open Number

variable {α : Type}

def histories (past : List α) : List α → List (List α)
  | [] => []
  | x :: rest => (x :: past) :: histories (x :: past) rest

variable [Number α]

/-- Whether the newest `length` values of a history are there and finite. -/
def isComplete (length : Nat) (history : List α) : Bool :=
  let window := history.take length
  0 < length && window.length = length && window.all isFinite

def overWindow (length : Nat) (statistic : List α → α) (history : List α) : α :=
  if isComplete length history then statistic (history.take length) else nan

def rolling (length : Nat) (statistic : List α → α) (series : List α) : List α :=
  (histories [] series).map (overWindow length statistic)

def running {σ : Type} (statistic : Running σ α) (length : Nat) (series : List α) : List α :=
  List.zipWith (fun history state => if isComplete length history then statistic.value state else nan)
    (histories [] series) (statistic.states length [] statistic.start series)

def greatest (window : List α) : α :=
  match window.reverse with
  | [] => nan
  | x :: rest => rest.foldl max x

def least (window : List α) : α :=
  match window.reverse with
  | [] => nan
  | x :: rest => rest.foldl min x

def sma (length : Nat) (series : List α) : List α := running Running.mean length series

def stdev (length : Nat) (series : List α) : List α := running Running.deviation length series

def highest (length : Nat) (series : List α) : List α := rolling length greatest series

def lowest (length : Nat) (series : List α) : List α := rolling length least series

/-! ## One value for each bar -/

omit [Number α] in
@[simp] theorem length_histories (past series : List α) : (histories past series).length = series.length := by
  induction series generalizing past with
  | nil => rfl
  | cons x rest ih => simp [histories, ih]

@[simp] theorem length_rolling (length : Nat) (statistic : List α → α) (series : List α) :
    (rolling length statistic series).length = series.length := by
  simp [rolling]

@[simp] theorem length_running {σ : Type} (statistic : Running σ α) (length : Nat) (series : List α) :
    (running statistic length series).length = series.length := by
  simp [running]

end IndicatorScript.Indicator
