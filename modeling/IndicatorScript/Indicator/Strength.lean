import IndicatorScript.Number.Sum

/-!
# Relative strength

The relative strength index with Wilder's smoothing. The first average gain and loss are the plain means of the first
`length` changes after the series begins; each later change moves them by one part in `length`. Without losses the
index is one hundred.
-/

namespace IndicatorScript.Indicator

open Number

variable {α : Type} [Number α]

def strength (gain loss : α) : α :=
  if isZero loss then ofNat 100 else ofNat 100 - ofNat 100 / (ofNat 1 + gain / loss)

def rise (change : α) : α := max change (ofNat 0)

def fall (change : α) : α := max (ofNat 0 - change) (ofNat 0)

def wilder (length : Nat) (average x : α) : α :=
  (average * ofNat (length - 1) + x) / ofNat length

def strengths (length : Nat) (gain loss : α) : List α → List α
  | [] => []
  | change :: rest =>
      let gain := wilder length gain (rise change)
      let loss := wilder length loss (fall change)
      strength gain loss :: strengths length gain loss rest

def changes (series : List α) : List α := List.zipWith (fun x next => next - x) series series.tail

def rsiFromStart (length : Nat) (series : List α) : List α :=
  if series.length ≤ length then series.map fun _ => nan
  else
    let early := (changes series).take length
    let gain := sum (early.map rise) / ofNat length
    let loss := sum (early.map fall) / ofNat length
    List.replicate length nan ++ strength gain loss :: strengths length gain loss ((changes series).drop length)

def rsi (length : Nat) (series : List α) : List α :=
  (series.takeWhile isNaN).map (fun _ => nan) ++ rsiFromStart length (series.dropWhile isNaN)

/-! ## Where it begins -/

theorem rsi_of_defined (length : Nat) {x : α} (defined : isNaN x = false) (rest : List α) :
    rsi length (x :: rest) = rsiFromStart length (x :: rest) := by
  simp [rsi, defined]

theorem rsi_of_undefined (length : Nat) {x : α} (gap : isNaN x = true) (rest : List α) :
    rsi length (x :: rest) = nan :: rsi length rest := by
  simp [rsi, gap]

/-! ## One value for each bar -/

@[simp] theorem length_strengths (length : Nat) (gain loss : α) (changes : List α) :
    (strengths length gain loss changes).length = changes.length := by
  induction changes generalizing gain loss with
  | nil => rfl
  | cons change rest ih => simp [strengths, ih]

@[simp] theorem length_rsiFromStart (length : Nat) (series : List α) :
    (rsiFromStart length series).length = series.length := by
  unfold rsiFromStart
  split
  · simp
  · simp [changes]; omega

@[simp] theorem length_rsi (length : Nat) (series : List α) : (rsi length series).length = series.length := by
  rw [rsi, List.length_append, List.length_map, length_rsiFromStart, ← List.length_append,
    List.takeWhile_append_dropWhile]

end IndicatorScript.Indicator
