import IndicatorScript.Number

/-!
# Running statistics

The mean and the deviation of a window, kept up to date as values enter and leave it, so that a bar costs the same
whatever the length of the window. What rounding takes from a sum is carried along and given back at the next value.
A window that keeps none of its values, or whose precision is used up, is computed afresh.
-/

namespace IndicatorScript.Indicator

open Number

structure Running (σ α : Type) where
  start : σ
  enter : σ → α → σ
  leave : σ → α → σ
  /-- Whether leaving values have used up the precision. -/
  isWorn : σ → Bool
  value : σ → α

namespace Running

variable {σ α : Type} [Number α]

def ofWindow (statistic : Running σ α) (window : List α) : σ :=
  window.foldr (fun x state => statistic.enter state x) statistic.start

def next (statistic : Running σ α) (length : Nat) (past : List α) (state : σ) (x : α) : σ :=
  if length ≤ 1 then statistic.ofWindow [x]
  else
    let kept := match past[length - 1]? with
      | some oldest => statistic.leave state oldest
      | none => state
    let moved := statistic.enter kept x
    if statistic.isWorn moved then statistic.ofWindow ((x :: past).take length) else moved

/-- The state at each bar. The values before the first one are in `past`, the newest first. -/
def states (statistic : Running σ α) (length : Nat) (past : List α) (state : σ) : List α → List σ
  | [] => []
  | x :: rest =>
      let moved := statistic.next length past state x
      moved :: statistic.states length (x :: past) moved rest

omit [Number α] in
@[simp] theorem length_states (statistic : Running σ α) (length : Nat) (past : List α) (state : σ)
    (series : List α) : (statistic.states length past state series).length = series.length := by
  induction series generalizing past state with
  | nil => rfl
  | cons x rest ih => simp [states, ih]

end Running

/-! ## Runs of equal values -/

structure Repeats (α : Type) where
  value : α
  count : Nat

variable {α : Type} [Number α]

def Repeats.start : Repeats α := ⟨nan, 0⟩

def Repeats.enter (repeats : Repeats α) (x : α) : Repeats α :=
  ⟨x, if equal x repeats.value then repeats.count + 1 else 1⟩

/-! ## The mean -/

structure Compensated (α : Type) where
  sum : α
  excess : α

/-- The sum of a window and its compensations, one for the values that enter and one for those that leave. -/
structure RunningSum (α : Type) where
  sum : α
  gained : α
  lost : α
  count : Nat
  /-- How many of the values have a minus sign. -/
  signed : Nat
  repeats : Repeats α

/-- Adds a value, of which the excess of the one before is taken back. -/
def compensatedAdd (sum excess x : α) : Compensated α :=
  let correct := x - excess
  let total := sum + correct
  ⟨total, total - sum - correct⟩

namespace RunningSum

def start : RunningSum α := ⟨ofNat 0, ofNat 0, ofNat 0, 0, 0, .start⟩

def enter (state : RunningSum α) (x : α) : RunningSum α :=
  if isFinite x then
    let added := compensatedAdd state.sum state.gained x
    { state with
      sum := added.sum
      gained := added.excess
      count := state.count + 1
      signed := state.signed + (isSigned x).toNat
      repeats := state.repeats.enter x }
  else state

def leave (state : RunningSum α) (x : α) : RunningSum α :=
  if isFinite x then
    let added := compensatedAdd state.sum state.lost (ofNat 0 - x)
    { state with
      sum := added.sum
      lost := added.excess
      count := state.count - 1
      signed := state.signed - (isSigned x).toNat }
  else state

/-- The mean. Values of one sign do not have a mean of the other. -/
def mean (state : RunningSum α) : α :=
  let quotient := state.sum / ofNat state.count
  if state.count ≤ state.repeats.count then state.repeats.value
  else if state.signed = 0 ∧ less quotient (ofNat 0) then ofNat 0
  else if state.signed = state.count ∧ less (ofNat 0) quotient then ofNat 0
  else quotient

end RunningSum

def Running.mean : Running (RunningSum α) α where
  start := RunningSum.start
  enter := RunningSum.enter
  leave := RunningSum.leave
  isWorn _ := false
  value := RunningSum.mean

/-! ## The deviation -/

structure RunningSpread (α : Type) where
  mean : α
  squares : α
  gained : α
  lost : α
  count : Nat
  worn : Bool
  repeats : Repeats α

namespace RunningSpread

def start : RunningSpread α := ⟨ofNat 0, ofNat 0, ofNat 0, ofNat 0, 0, false, .start⟩

def distance (mean excess x : α) : Compensated α :=
  let correct := x - excess
  let distance := correct - mean
  ⟨distance, distance + mean - correct⟩

def enter (state : RunningSpread α) (x : α) : RunningSpread α :=
  if isFinite x then
    let before := state.mean - state.gained
    let moved := distance state.mean state.gained x
    let mean := state.mean + moved.sum / ofNat (state.count + 1)
    { state with
      mean
      squares := state.squares + (x - before) * (x - mean)
      gained := moved.excess
      count := state.count + 1
      repeats := state.repeats.enter x }
  else state

def leastPart : α := ofNat 1000 / ofNat (1 <<< 52)

def leave (state : RunningSpread α) (x : α) : RunningSpread α :=
  if isFinite x then
    if state.count ≤ 1 then { state with mean := ofNat 0, squares := ofNat 0, count := 0 }
    else
      let before := state.mean - state.lost
      let moved := distance state.mean state.lost x
      let mean := state.mean - moved.sum / ofNat (state.count - 1)
      let squares := state.squares - (x - before) * (x - mean)
      { state with
        mean
        squares
        lost := moved.excess
        count := state.count - 1
        worn := state.worn || less squares (state.squares * leastPart) }
  else state

/-- The population standard deviation. A sum of squares that rounding has made negative counts as none. -/
def deviation (state : RunningSpread α) : α :=
  if state.count = 1 ∨ state.count ≤ state.repeats.count then ofNat 0
  else
    let variance := state.squares / ofNat state.count
    if less variance (ofNat 0) then ofNat 0 else sqrt variance

end RunningSpread

def Running.deviation : Running (RunningSpread α) α where
  start := RunningSpread.start
  enter := RunningSpread.enter
  leave := RunningSpread.leave
  isWorn := RunningSpread.worn
  value := RunningSpread.deviation

end IndicatorScript.Indicator
