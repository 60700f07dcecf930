import Mathlib
import IndicatorScript.Example
import IndicatorScript.Proofs.Run.Charting

/-!
# The examples are charts

Each example is read as its statements, and these need nothing but inputs of the right kind: a derivation of `Draws` for
each, with a line for each of its statements, and with all that it divides by.
-/

namespace IndicatorScript

open Example

theorem Example.toList_lines (texts : List String) :
    (lines texts).toList = texts.flatMap fun text => text.toList ++ ['\n'] := by
  rw [lines]
  induction texts with
  | nil => rfl
  | cons text rest ih =>
    rw [List.map_cons, String.join_cons, String.toList_append, String.toList_append, ih]
    rfl

variable {α : Type}

/-! ## Reading -/

namespace Example

def numerals : List String := ["0.015", "2", "2.0", "3", "5", "9", "10", "12", "14", "20", "21", "26", "52", "100"]

/-- Literals of which the numerals of the examples need not be computed. -/
@[reducible] def reading (number : String → α) (read? : String → Option α) : Literal α :=
  ⟨number "0", fun text => if numerals.contains text then some (number text) else read? text⟩

/-- What the numerals of the examples are read as. -/
structure ReadAs [Literal α] (number : String → α) : Prop where
  zero : Literal.zero = number "0"
  read : ∀ text ∈ numerals, Literal.read? text = some (number text)

theorem ReadAs.literal_eq [literal : Literal α] {number : String → α} (readAs : ReadAs number) :
    literal = reading number Literal.read? := by
  rcases literal with ⟨zero, read?⟩
  rcases readAs with ⟨rfl, read⟩
  refine congrArg (Literal.mk (number "0")) (funext fun text => ?_)
  split
  · next mem => exact read text (List.contains_iff_mem.mp mem)
  · rfl

variable [Number α]

/-! ## What the examples divide by -/

/-- How far the highest and the lowest price of the last bars are apart. -/
def range (n : Nat) (bars : List (Bar α)) : List α :=
  List.zipWith (· - ·) (Indicator.highest n (bars.map (·.price .high))) (Indicator.lowest n (bars.map (·.price .low)))

def meanVolume (n : Nat) (bars : List (Bar α)) : List α := Indicator.sma n (bars.map (·.price .volume))

/-- The deviation of the mean prices of the last bars, times a factor. -/
def deviation (factor : α) (n : Nat) (bars : List (Bar α)) : List α :=
  (Indicator.stdev n (bars.map (·.composite .highLowClose))).map (factor * ·)

/-! ## Charts -/

variable [Literal α] {number : String → α} {bars : List (Bar α)} {parameters : Bindings (Value α)}

def chartOfScan (readAs : ReadAs number) {texts : List String} {text : List Char} {title : String}
    {statements : List (Statement α)} {divisors : List (Operand α)}
    (written : texts.flatMap (fun text => text.toList ++ ['\n']) = text)
    (parsed : (Token.scan 1 text >>= @parseTokens α (reading number Literal.read?) (.whole 50)) = .ok statements)
    (titled : (Script.study? ⟨statements⟩).map Study.title = some title) (short : statements.length ≤ 1000)
    (plots : statements.any Statement.isPlot = true) (draws : Draws bars parameters {} statements divisors) :
    Chart (lines texts) title bars parameters divisors where
  script := ⟨statements⟩
  compiled := by
    rw [← readAs.literal_eq] at parsed
    rw [compile, parse, tokenize, toList_lines, written]
    exact congrArg (Except.map Script.mk) parsed
  titled := titled
  short := short
  plots := plots
  draws := draws

set_option maxRecDepth 20000

def simpleMovingAverageChart (readAs : ReadAs number)
    {n : Nat} (nLength : (givenOr parameters "Length" (number "20")).toLength = .ok n) :
    Chart simpleMovingAverage "Simple Moving Average" bars parameters [] := by
  refine chartOfScan readAs (by simp only [List.flatMap_cons, List.flatMap_nil]; repeat rw [String.toList_ofList])
    (by cbv) rfl (by simp) rfl ?_
  exact .study <|
    .length nLength <|
    .series (.windowed rfl (.price rfl) (.name rfl)) <|
    .plot (.series rfl) <|
    .done _

def exponentialMovingAverageChart (readAs : ReadAs number)
    {n : Nat} (nLength : (givenOr parameters "Length" (number "21")).toLength = .ok n) :
    Chart exponentialMovingAverage "Exponential Moving Average" bars parameters [] := by
  refine chartOfScan readAs (by simp only [List.flatMap_cons, List.flatMap_nil]; repeat rw [String.toList_ofList])
    (by cbv) rfl (by simp) rfl ?_
  exact .study <|
    .length nLength <|
    .series (.windowed rfl (.price rfl) (.name rfl)) <|
    .plot (.series rfl) <|
    .done _

def relativeStrengthIndexChart (readAs : ReadAs number)
    {n : Nat} (nLength : (givenOr parameters "Length" (number "14")).toLength = .ok n) :
    Chart relativeStrengthIndex "Relative Strength Index" bars parameters [] := by
  refine chartOfScan readAs (by simp only [List.flatMap_cons, List.flatMap_nil]; repeat rw [String.toList_ofList])
    (by cbv) rfl (by simp) rfl ?_
  exact .study <|
    .length nLength <|
    .series (.windowed rfl (.price rfl) (.name rfl)) <|
    .plot (.series rfl) <|
    .done _

def bollingerBandsChart (readAs : ReadAs number)
    {n : Nat} (nLength : (givenOr parameters "Length" (number "20")).toLength = .ok n)
    {x : α} (isNumber : (givenOr parameters "Multiplier" (number "2.0")).toNumber = .ok x) :
    Chart bollingerBands "Bollinger Bands" bars parameters [] := by
  refine chartOfScan readAs (by simp only [List.flatMap_cons, List.flatMap_nil]; repeat rw [String.toList_ofList])
    (by cbv) rfl (by simp) rfl ?_
  exact .study <|
    .length nLength <|
    .number isNumber <|
    .series (.windowed rfl (.price rfl) (.name rfl)) <|
    .series (.windowed rfl (.price rfl) (.name rfl)) <|
    .series (.operation (.series rfl) (.operation (.series rfl) (.scalar rfl) rfl) rfl) <|
    .series (.operation (.series rfl) (.operation (.series rfl) (.scalar rfl) rfl) rfl) <|
    .plot (.series rfl) <|
    .plot (.series rfl) <|
    .plot (.series rfl) <|
    .done _

def convergenceDivergenceChart (readAs : ReadAs number)
    {fast : Nat} (fastLength : (givenOr parameters "Fast Length" (number "12")).toLength = .ok fast)
    {slow : Nat} (slowLength : (givenOr parameters "Slow Length" (number "26")).toLength = .ok slow)
    {signal : Nat} (signalLength : (givenOr parameters "Signal Length" (number "9")).toLength = .ok signal) :
    Chart convergenceDivergence "MACD" bars parameters [] := by
  refine chartOfScan readAs (by simp only [List.flatMap_cons, List.flatMap_nil]; repeat rw [String.toList_ofList])
    (by cbv) rfl (by simp) rfl ?_
  exact .study <|
    .length fastLength <|
    .length slowLength <|
    .length signalLength <|
    .series (.convergence rfl (.price rfl) (.name rfl) (.name rfl)) <|
    .series (.windowed rfl (.series rfl) (.name rfl)) <|
    .series (.operation (.series rfl) (.series rfl) rfl) <|
    .plot (.series rfl) <|
    .plot (.series rfl) <|
    .plot (.series rfl) <|
    .done _

def stochasticOscillatorChart (readAs : ReadAs number)
    {k : Nat} (kLength : (givenOr parameters "K Period" (number "14")).toLength = .ok k)
    {d : Nat} (dLength : (givenOr parameters "D Period" (number "3")).toLength = .ok d) :
    Chart stochasticOscillator "Stochastic Oscillator" bars parameters [.series (range k bars)] := by
  refine chartOfScan readAs (by simp only [List.flatMap_cons, List.flatMap_nil]; repeat rw [String.toList_ofList])
    (by cbv) rfl (by simp) rfl ?_
  exact .study <|
    .length kLength <|
    .length dLength <|
    .series (.windowed rfl (.price rfl) (.name rfl)) <|
    .series (.windowed rfl (.price rfl) (.name rfl)) <|
    .series (.operation (.operation
      (.operation (.price rfl) (.series rfl) rfl)
      (.operation (.series rfl) (.series rfl) rfl) rfl) (.number _) rfl) <|
    .series (.windowed rfl (.series rfl) (.name rfl)) <|
    .plot (.series rfl) <|
    .plot (.series rfl) <|
    .done _

def ichimokuCloudChart (readAs : ReadAs number)
    {conversion : Nat}
    (conversionLength : (givenOr parameters "Conversion Line Periods" (number "9")).toLength = .ok conversion)
    {base : Nat} (baseLength : (givenOr parameters "Base Line Periods" (number "26")).toLength = .ok base)
    {lagging : Nat} (laggingLength : (givenOr parameters "Lagging Span Periods" (number "52")).toLength = .ok lagging) :
    Chart ichimokuCloud "Ichimoku Cloud" bars parameters (List.replicate 4 (.scalar (number "2"))) := by
  refine chartOfScan readAs (by simp only [List.flatMap_cons, List.flatMap_nil]; repeat rw [String.toList_ofList])
    (by cbv) rfl (by simp) rfl ?_
  exact .study <|
    .length conversionLength <|
    .length baseLength <|
    .length laggingLength <|
    .series (.operation
      (.operation (.windowed rfl (.price rfl) (.name rfl)) (.windowed rfl (.price rfl) (.name rfl)) rfl)
      (.number _) rfl) <|
    .series (.operation
      (.operation (.windowed rfl (.price rfl) (.name rfl)) (.windowed rfl (.price rfl) (.name rfl)) rfl)
      (.number _) rfl) <|
    .series (.operation (.operation (.series rfl) (.series rfl) rfl) (.number _) rfl) <|
    .series (.operation
      (.operation (.windowed rfl (.price rfl) (.name rfl)) (.windowed rfl (.price rfl) (.name rfl)) rfl)
      (.number _) rfl) <|
    .plot (.series rfl) <|
    .plot (.series rfl) <|
    .plot (.series rfl) <|
    .plot (.series rfl) <|
    .done _

def volumeWeightedAveragePriceChart (readAs : ReadAs number)
    {n : Nat} (isLength : (Value.number (number "20")).toLength = .ok n) :
    Chart volumeWeightedAveragePrice "Volume Weighted Average Price" bars parameters [.series (meanVolume n bars)] := by
  refine chartOfScan readAs (by simp only [List.flatMap_cons, List.flatMap_nil]; repeat rw [String.toList_ofList])
    (by cbv) rfl (by simp) rfl ?_
  exact .study <|
    .series (.composite rfl) <|
    .series (.operation (.series rfl) (.price rfl) rfl) <|
    .series (.windowed rfl (.series rfl) (.number isLength)) <|
    .series (.windowed rfl (.price rfl) (.number isLength)) <|
    .series (.operation (.series rfl) (.series rfl) rfl) <|
    .plot (.series rfl) <|
    .done _

def averageTrueRangeChart (readAs : ReadAs number)
    {n : Nat} (nLength : (givenOr parameters "Length" (number "14")).toLength = .ok n) :
    Chart averageTrueRange "Average True Range" bars parameters [] := by
  refine chartOfScan readAs (by simp only [List.flatMap_cons, List.flatMap_nil]; repeat rw [String.toList_ofList])
    (by cbv) rfl (by simp) rfl ?_
  exact .study <|
    .length nLength <|
    .series (.operation (.price rfl) (.price rfl) rfl) <|
    .series (.magnitude rfl (.operation (.price rfl) (.price rfl) rfl)) <|
    .series (.magnitude rfl (.operation (.price rfl) (.price rfl) rfl)) <|
    .series (.choice rfl (.series rfl) (.choice rfl (.series rfl) (.series rfl))) <|
    .series (.windowed rfl (.series rfl) (.name rfl)) <|
    .plot (.series rfl) <|
    .done _

def williamsPercentRangeChart (readAs : ReadAs number)
    {n : Nat} (nLength : (givenOr parameters "Length" (number "14")).toLength = .ok n) :
    Chart williamsPercentRange "Williams %R" bars parameters [.series (range n bars)] := by
  refine chartOfScan readAs (by simp only [List.flatMap_cons, List.flatMap_nil]; repeat rw [String.toList_ofList])
    (by cbv) rfl (by simp) rfl ?_
  exact .study <|
    .length nLength <|
    .series (.windowed rfl (.price rfl) (.name rfl)) <|
    .series (.windowed rfl (.price rfl) (.name rfl)) <|
    .series (.operation (.operation
      (.operation (.series rfl) (.price rfl) rfl)
      (.operation (.series rfl) (.series rfl) rfl) rfl) (.numbers (by decide) (.number _) (.number _)) rfl) <|
    .plot (.series rfl) <|
    .done _

def commodityChannelIndexChart (readAs : ReadAs number)
    {n : Nat} (nLength : (givenOr parameters "Length" (number "20")).toLength = .ok n) :
    Chart commodityChannelIndex "Commodity Channel Index" bars parameters
      [.series (deviation (number "0.015") n bars)] := by
  refine chartOfScan readAs (by simp only [List.flatMap_cons, List.flatMap_nil]; repeat rw [String.toList_ofList])
    (by cbv) rfl (by simp) rfl ?_
  exact .study <|
    .length nLength <|
    .series (.composite rfl) <|
    .series (.windowed rfl (.series rfl) (.name rfl)) <|
    .series (.windowed rfl (.series rfl) (.name rfl)) <|
    .series (.operation (.operation (.series rfl) (.series rfl) rfl) (.operation (.number _) (.series rfl) rfl) rfl) <|
    .plot (.series rfl) <|
    .done _

def pivotPointsChart (readAs : ReadAs number) :
    Chart pivotPoints "Pivot Points" bars parameters [.scalar (number "3")] := by
  refine chartOfScan readAs (by simp only [List.flatMap_cons, List.flatMap_nil]; repeat rw [String.toList_ofList])
    (by cbv) rfl (by simp) rfl ?_
  exact .study <|
    .series (.operation (.operation (.operation (.price rfl) (.price rfl) rfl) (.price rfl) rfl) (.number _) rfl) <|
    .series (.operation (.operation (.number _) (.series rfl) rfl) (.price rfl) rfl) <|
    .series (.operation (.operation (.number _) (.series rfl) rfl) (.price rfl) rfl) <|
    .series (.operation (.series rfl) (.operation (.price rfl) (.price rfl) rfl) rfl) <|
    .series (.operation (.series rfl) (.operation (.price rfl) (.price rfl) rfl) rfl) <|
    .plot (.series rfl) <|
    .plot (.series rfl) <|
    .plot (.series rfl) <|
    .plot (.series rfl) <|
    .plot (.series rfl) <|
    .done _

def donchianChannelsChart (readAs : ReadAs number)
    {n : Nat} (nLength : (givenOr parameters "Length" (number "20")).toLength = .ok n) :
    Chart donchianChannels "Donchian Channels" bars parameters [.scalar (number "2")] := by
  refine chartOfScan readAs (by simp only [List.flatMap_cons, List.flatMap_nil]; repeat rw [String.toList_ofList])
    (by cbv) rfl (by simp) rfl ?_
  exact .study <|
    .length nLength <|
    .series (.windowed rfl (.price rfl) (.name rfl)) <|
    .series (.windowed rfl (.price rfl) (.name rfl)) <|
    .series (.operation (.operation (.series rfl) (.series rfl) rfl) (.number _) rfl) <|
    .plot (.series rfl) <|
    .plot (.series rfl) <|
    .plot (.series rfl) <|
    .done _

def volumeOscillatorChart (readAs : ReadAs number)
    {short : Nat} (shortLength : (givenOr parameters "Short Period" (number "5")).toLength = .ok short)
    {long : Nat} (longLength : (givenOr parameters "Long Period" (number "10")).toLength = .ok long) :
    Chart volumeOscillator "Volume Oscillator" bars parameters [.series (meanVolume long bars)] := by
  refine chartOfScan readAs (by simp only [List.flatMap_cons, List.flatMap_nil]; repeat rw [String.toList_ofList])
    (by cbv) rfl (by simp) rfl ?_
  exact .study <|
    .length shortLength <|
    .length longLength <|
    .series (.windowed rfl (.price rfl) (.name rfl)) <|
    .series (.windowed rfl (.price rfl) (.name rfl)) <|
    .series (.operation (.operation (.operation (.series rfl) (.series rfl) rfl) (.series rfl) rfl) (.number _) rfl) <|
    .plot (.series rfl) <|
    .done _

end Example

end IndicatorScript
