import IndicatorScript.Proofs.Decimal.Whole
import IndicatorScript.Proofs.Example.Chart
import IndicatorScript.Settings

/-!
# What the examples come to

The examples run on all bars, with whatever lengths: nine of them always, and the five that divide by a range, a
deviation or a volume unless that is zero at some bar (`examples_run`).
-/

namespace IndicatorScript

/-- A whole number from one on that is in the range of doubles, of whichever type. -/
def Value.IsWhole : Value Float → Prop
  | .integer i => 1 ≤ i ∧ (Number.doubleOfInt? i).isSome = true
  | .number x => ∃ i, Number.toInt? x = some i ∧ 1 ≤ i
  | .boolean b => b = true
  | _ => False

theorem Value.IsWhole.toLength {value : Value Float} (whole : value.IsWhole) : ∃ n, value.toLength = .ok n := by
  cases value with
  | integer i =>
    rcases whole with ⟨pos, inRange⟩
    obtain ⟨n, rfl⟩ : ∃ n : Nat, i = n := Int.eq_ofNat_of_zero_le (by omega)
    have finite : (Float.ofNat n).isFinite = true := by
      by_contra infinite
      simp [Number.doubleOfInt?, infinite] at inRange
    rcases Decimal.toInt?_ofNat (by omega) finite with ⟨j, isInt, pos'⟩
    have isNumber : (Value.integer (n : Int) : Value Float).toNumber = .ok (Float.ofNat n) := by
      simp [toNumber, Number.ofInt?, Number.doubleOfInt?, finite]
    exact ⟨j.toNat, toLength_of_toInt? isNumber isInt pos'⟩
  | number x =>
    rcases whole with ⟨i, isInt, pos⟩
    exact ⟨i.toNat, toLength_of_toInt? rfl isInt pos⟩
  | boolean b =>
    obtain rfl : b = true := whole
    have isInt : Number.toInt? (Number.ofBool true : Float) = some 1 := by decide +kernel
    exact ⟨1, toLength_of_toInt? rfl isInt le_rfl⟩
  | text s => exact whole.elim
  | none => exact whole.elim

namespace Example

def numberOf (text : String) : Float := (Decimal.read? text).getD 0.0

theorem readAs_numberOf : ReadAs numberOf where
  zero := by decide +kernel
  read := by
    have reads : ∀ text ∈ numerals, (Decimal.read? text).isSome = true := by decide +kernel
    intro text mem
    rcases Option.isSome_iff_exists.mp (reads text mem) with ⟨x, read⟩
    exact read.trans (by rw [numberOf, read, Option.getD_some])

def lengthTitles : List String :=
  ["Length", "Fast Length", "Slow Length", "Signal Length", "K Period", "D Period", "Conversion Line Periods",
    "Base Line Periods", "Lagging Span Periods", "Short Period", "Long Period"]

/-- Parameters that the examples can be run with. -/
structure Fits (parameters : Bindings (Value Float)) : Prop where
  lengths : ∀ title ∈ lengthTitles, ∀ value, parameters.get? title = some value → value.IsWhole
  multiplier : ∀ value, parameters.get? "Multiplier" = some value → ∃ x, value.toNumber = .ok x

/-- The length that parameters give under a title, or else the default. -/
def givenLength (parameters : Bindings (Value Float)) (title : String) (default : Nat) : Nat :=
  match (parameters.get? title).map Value.toLength with
  | some (.ok n) => n
  | _ => default

section Given

variable {parameters : Bindings (Value Float)}

/-- The lengths that are used unless others are given, as they are written and as numbers. -/
def defaultLengths : List (String × Nat) :=
  [("3", 3), ("5", 5), ("9", 9), ("10", 10), ("12", 12), ("14", 14), ("20", 20), ("21", 21), ("26", 26), ("52", 52)]

theorem toLength_default {text : String} {n : Nat} (known : defaultLengths.lookup text = some n) :
    (Value.number (numberOf text)).toLength = .ok n := by
  have ints : ∀ entry ∈ defaultLengths, Number.toInt? (numberOf entry.1) = some (entry.2 : Int) ∧ 1 ≤ entry.2 := by
    decide +kernel
  rcases List.lookup_eq_some_iff.mp known with ⟨before, after, split, -⟩
  rcases ints (text, n) (by simp [split]) with ⟨isInt, pos⟩
  exact Value.toLength_of_toInt? rfl isInt (by omega)

theorem Fits.toLength (fits : Fits parameters) {title text : String} {n : Nat} (isLength : title ∈ lengthTitles)
    (known : defaultLengths.lookup text = some n) :
    (givenOr parameters title (numberOf text)).toLength = .ok (givenLength parameters title n) := by
  unfold givenOr givenLength
  cases given : parameters.get? title with
  | none => exact toLength_default known
  | some value =>
    rcases (fits.lengths title isLength value given).toLength with ⟨m, isLength⟩
    simp only [Option.getD_some, Option.map_some, isLength]

theorem Fits.toNumber (fits : Fits parameters) (text : String) :
    ∃ x, (givenOr parameters "Multiplier" (numberOf text)).toNumber = .ok x := by
  unfold givenOr
  cases given : parameters.get? "Multiplier" with
  | none => exact ⟨numberOf text, rfl⟩
  | some value => exact fits.multiplier value given

end Given

/-- The examples that divide by constants, if by anything. -/
def undivided : List String :=
  ["Simple Moving Average", "Exponential Moving Average", "Relative Strength Index", "Bollinger Bands", "MACD",
    "Ichimoku Cloud", "Average True Range", "Pivot Points", "Donchian Channels"]

/-- The other examples, with the series that each of them divides by. -/
def divided (parameters : Bindings (Value Float)) (bars : List (Bar Float)) : List (String × List Float) :=
  [ ("Stochastic Oscillator", range (givenLength parameters "K Period" 14) bars),
    ("Volume Weighted Average Price", meanVolume 20 bars),
    ("Williams %R", range (givenLength parameters "Length" 14) bars),
    ("Commodity Channel Index", deviation 0.015 (givenLength parameters "Length" 20) bars),
    ("Volume Oscillator", meanVolume (givenLength parameters "Long Period" 10) bars) ]

section Outcome

variable {stamped : StampedBars Float} {parameters : Bindings (Value Float)} {source title : String}

theorem succeeds_of_chart {divisors : List (Operand Float)}
    (chart : Chart source title stamped.bars parameters divisors) (few : stamped.bars.length ≤ 100000)
    (nonzero : divisors.any Operand.hasZero = false) :
    Succeeds (executeSource {} source (.bars stamped) parameters) stamped.bars.length title := by
  have executed := chart.execute few
  rwa [if_neg (by simp [nonzero])] at executed

theorem outcome_of_chart {values : List Float}
    (chart : Chart source title stamped.bars parameters [.series values]) (few : stamped.bars.length ≤ 100000) :
    if values.any Number.isZero = true then FailsForZero (executeSource {} source (.bars stamped) parameters)
    else Succeeds (executeSource {} source (.bars stamped) parameters) stamped.bars.length title := by
  have executed := chart.execute few
  simpa only [List.any_cons, List.any_nil, Bool.or_false, Operand.hasZero] using executed

theorem undivided_succeed (few : stamped.bars.length ≤ 100000) (fits : Fits parameters) {name : String}
    (mem : name ∈ undivided) : ∃ source, source? name = some source ∧
      Succeeds (executeSource {} source (.bars stamped) parameters) stamped.bars.length name := by
  have reads := readAs_numberOf
  have two : Number.isZero (numberOf "2") = false := by decide +kernel
  have three : Number.isZero (numberOf "3") = false := by decide +kernel
  simp only [undivided, List.mem_cons, List.not_mem_nil, or_false] at mem
  rcases mem with rfl | rfl | rfl | rfl | rfl | rfl | rfl | rfl | rfl
  · exact ⟨_, rfl, succeeds_of_chart (simpleMovingAverageChart reads (fits.toLength (by decide) rfl)) few rfl⟩
  · exact ⟨_, rfl, succeeds_of_chart (exponentialMovingAverageChart reads (fits.toLength (by decide) rfl)) few rfl⟩
  · exact ⟨_, rfl, succeeds_of_chart (relativeStrengthIndexChart reads (fits.toLength (by decide) rfl)) few rfl⟩
  · rcases fits.toNumber "2.0" with ⟨x, isNumber⟩
    exact ⟨_, rfl, succeeds_of_chart (bollingerBandsChart reads (fits.toLength (by decide) rfl) isNumber) few rfl⟩
  · exact ⟨_, rfl, succeeds_of_chart (convergenceDivergenceChart reads (fits.toLength (by decide) rfl)
      (fits.toLength (by decide) rfl) (fits.toLength (by decide) rfl)) few rfl⟩
  · exact ⟨_, rfl, succeeds_of_chart (ichimokuCloudChart reads (fits.toLength (by decide) rfl)
      (fits.toLength (by decide) rfl) (fits.toLength (by decide) rfl)) few (by simp [Operand.hasZero, two])⟩
  · exact ⟨_, rfl, succeeds_of_chart (averageTrueRangeChart reads (fits.toLength (by decide) rfl)) few rfl⟩
  · exact ⟨_, rfl, succeeds_of_chart (pivotPointsChart reads) few (by simp [Operand.hasZero, three])⟩
  · exact ⟨_, rfl, succeeds_of_chart (donchianChannelsChart reads (fits.toLength (by decide) rfl)) few
      (by simp [Operand.hasZero, two])⟩

theorem divided_outcome (few : stamped.bars.length ≤ 100000) (fits : Fits parameters) {entry : String × List Float}
    (mem : entry ∈ divided parameters stamped.bars) : ∃ source, source? entry.1 = some source ∧
      if entry.2.any Number.isZero = true then FailsForZero (executeSource {} source (.bars stamped) parameters)
      else Succeeds (executeSource {} source (.bars stamped) parameters) stamped.bars.length entry.1 := by
  have reads := readAs_numberOf
  have factor : numberOf "0.015" = 0.015 := by decide +kernel
  simp only [divided, List.mem_cons, List.not_mem_nil, or_false] at mem
  rcases mem with rfl | rfl | rfl | rfl | rfl
  · exact ⟨_, rfl, outcome_of_chart (stochasticOscillatorChart reads (fits.toLength (by decide) rfl)
      (fits.toLength (by decide) rfl)) few⟩
  · exact ⟨_, rfl, outcome_of_chart (volumeWeightedAveragePriceChart reads (toLength_default rfl)) few⟩
  · exact ⟨_, rfl, outcome_of_chart (williamsPercentRangeChart reads (fits.toLength (by decide) rfl)) few⟩
  · rw [← factor]
    exact ⟨_, rfl, outcome_of_chart (commodityChannelIndexChart reads (fits.toLength (by decide) rfl)) few⟩
  · exact ⟨_, rfl, outcome_of_chart (volumeOscillatorChart reads (fits.toLength (by decide) rfl)
      (fits.toLength (by decide) rfl)) few⟩

end Outcome

theorem examples_run (stamped : StampedBars Float) (parameters : Bindings (Value Float))
    (few : stamped.bars.length ≤ 100000) (fits : Fits parameters) :
    (∀ name ∈ undivided, ∃ source, source? name = some source ∧
      Succeeds (executeSource ({} : Settings).limits source (.bars stamped) parameters) stamped.bars.length name) ∧
    ∀ entry ∈ divided parameters stamped.bars, ∃ source, source? entry.1 = some source ∧
      if entry.2.any Number.isZero = true then
        FailsForZero (executeSource ({} : Settings).limits source (.bars stamped) parameters)
      else
        Succeeds (executeSource ({} : Settings).limits source (.bars stamped) parameters) stamped.bars.length
          entry.1 := by
  have limits : ({} : Settings).limits = {} := rfl
  rw [limits]
  exact ⟨fun _ => undivided_succeed few fits, fun _ => divided_outcome few fits⟩

theorem examples_run_flat :
    let bar : Bar Float := ⟨5.0, 5.0, 5.0, 5.0, 1.0⟩
    let stamped : StampedBars Float := ⟨[.integer 1, .integer 2, .integer 3], [bar, bar, bar]⟩
    let parameters : Bindings (Value Float) := Bindings.insert {} "Length" (.integer 2)
    (∃ source, source? "Simple Moving Average" = some source ∧
      Succeeds (executeSource ({} : Settings).limits source (.bars stamped) parameters) 3 "Simple Moving Average") ∧
    ∃ source, source? "Williams %R" = some source ∧
      FailsForZero (executeSource ({} : Settings).limits source (.bars stamped) parameters) := by
  intro bar stamped parameters
  have fits : Fits parameters := by
    refine ⟨fun title _ value bound => ?_, fun value bound => ?_⟩
    · rcases Bindings.get?_insert_cases bound with ⟨-, rfl⟩ | ⟨-, unbound⟩
      · exact ⟨by decide, by decide +kernel⟩
      · cases unbound
    · rcases Bindings.get?_insert_cases bound with ⟨same, -⟩ | ⟨-, unbound⟩
      · exact absurd same (by decide)
      · cases unbound
  have runs := examples_run stamped parameters (by decide) fits
  refine ⟨runs.1 _ (by simp [undivided]), ?_⟩
  have listed : ("Williams %R", range 2 stamped.bars) ∈ divided parameters stamped.bars :=
    .tail _ (.tail _ (.head _))
  rcases runs.2 _ listed with ⟨source, found, outcome⟩
  rw [if_pos (by decide +kernel)] at outcome
  exact ⟨source, found, outcome⟩

end Example

end IndicatorScript
