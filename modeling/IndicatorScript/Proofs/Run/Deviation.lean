import IndicatorScript.Proofs.Expr.Abbreviation
import IndicatorScript.Proofs.Expr.Pointwise
import IndicatorScript.Proofs.Indicator.Flat
import IndicatorScript.Proofs.Run.Alignment

/-!
# Division by a deviation

A script that divides by the deviation of a series fails on a run of equal numbers as long as the window, and only then
(`evalSeries_overDeviation`): the divisor is evaluated at every bar before anything is divided. Together with the order of
the statistics at a bar this is `window_statistics`.
-/

namespace IndicatorScript

open Exact

theorem Value.pos_of_toLength {α : Type} [Number α] {value : Value α} {length : Nat}
    (isLength : value.toLength = .ok length) : 0 < length := by
  rcases exists_of_bind_eq_ok isLength with ⟨x, -, isWhole⟩
  split at isWhole
  · split at isWhole
    · next positive =>
      cases isWhole
      omega
    · cases isWhole
  · cases isWhole

namespace Expr

/-- An expression divided by the deviation of another. -/
def overDeviation {α : Type} (left x n : Expr α) : Expr α :=
  binary left (.arithmetic .divide) (call "stdev" [x, n])

section Quotient

variable {context : Context Exact} (aligned : context.Aligned) {left x n : Expr Exact} {dividend : Operand Exact}
  {series : List Exact} {length : Nat}
  (divided : operandOf context left (fun _ => left.evalSeries context) = .ok dividend)
  (evaluates : x.evalSeries context = .ok series) (isLength : n.evalLength context = .ok length)

include aligned divided evaluates isLength

theorem evalSeries_overDeviation :
    GivesUnless (HasRun series length) (fun values => values.length = context.bars.length)
      ((overDeviation left x n).evalSeries context) := by
  have positive : 0 < length := by
    rcases exists_of_bind_eq_ok isLength with ⟨value, -, same⟩
    exact Value.pos_of_toLength same
  have fits : dividend.Fits context.bars.length :=
    (operandOf_yields (fun _ => id) (evalSeries_yields aligned left)).gives dividend divided
  have fits' : (Operand.series (Indicator.stdev length series)).Fits context.bars.length :=
    (length_apply_windowed .stdev length series).trans ((evalSeries_yields aligned x).gives series evaluates)
  have divisor : operandOf context (call "stdev" [x, n]) (fun _ => (call "stdev" [x, n]).evalSeries context) =
      .ok (.series (Indicator.stdev length series)) := by
    rw [operandOf_of_isSeries (isSeries_of_produces stdev_named rfl _ _), evalSeries_windowed stdev_named, evaluates,
      isLength]
    rfl
  have zero : (Operand.series (Indicator.stdev length series)).hasZero = true ↔ HasRun series length :=
    Indicator.any_isZero_stdev positive series
  have quotient : (overDeviation left x n).evalSeries context =
      (Operator.arithmetic .divide).applySeries context.bars.length dividend
        (.series (Indicator.stdev length series)) := by
    rw [overDeviation, evalSeries_binary, divided, divisor]
    rfl
  rw [quotient, Arithmetic.applySeries_of_fits .divide fits fits']
  split
  · next divides => exact .inl ⟨zero.mp divides.2, rfl⟩
  · next other => exact .ok (fits.length_zipWith_values fits' _) fun run => other ⟨rfl, zero.mpr run⟩

theorem evalDeclared_overDeviation :
    GivesUnless (HasRun series length) (fun values => values.length = context.bars.length)
      ((overDeviation left x n).evalDeclared context) := by
  have isSeries : (overDeviation left x n).isSeries context.hasSeries = true := by
    rw [overDeviation, Expr.isSeries, isSeries_of_produces stdev_named rfl, Bool.or_true]
  rw [evalDeclared, if_pos isSeries]
  exact evalSeries_overDeviation aligned divided evaluates isLength

end Quotient

end Expr

open Indicator

/-- In every window the mean lies between the extremes, and without deviation all of them are equal. So wherever a script
has come to, a division by a deviation is one by zero if and only if the series has a run as long as the window. -/
theorem window_statistics :
    (∀ length (series : List Exact) i, 0 < length →
      (Known (lowest length series) i ∨ Known (sma length series) i ∨ Known (highest length series) i ∨
        Known (stdev length series) i) →
      ∃ low average high deviation,
        (lowest length series)[i]? = some (value low) ∧
        (sma length series)[i]? = some (value average) ∧
        (highest length series)[i]? = some (value high) ∧
        (stdev length series)[i]? = some (value deviation) ∧
        StatisticsOf (numbersIn series length i) low average high deviation) ∧
    ∀ {bars parameters} {context : Context Exact}, context.Made bars parameters →
      ∀ (left x n : Expr Exact) dividend series length,
        Expr.operandOf context left (fun _ => left.evalSeries context) = .ok dividend →
        x.evalSeries context = .ok series → n.evalLength context = .ok length →
        GivesUnless (HasRun series length) (fun values => values.length = bars.length)
          ((left.overDeviation x n).evalSeries context) ∧
        GivesUnless (HasRun series length) (fun _ => True) (context.step (.plot (left.overDeviation x n))) ∧
        ∀ name, GivesUnless (HasRun series length) (fun _ => True)
          (context.step (.series name (left.overDeviation x n))) := by
  constructor
  · intro length series i positive known
    refine exists_statisticsOf positive ?_
    rcases known with ⟨m, found⟩ | ⟨m, found⟩ | ⟨m, found⟩ | ⟨m, found⟩
    · exact fullAt_of_rolling positive found
    · exact fullAt_of_rolling positive (sma_eq positive series ▸ found)
    · exact fullAt_of_rolling positive found
    · exact fullAt_of_rolling positive (stdev_eq positive series ▸ found)
  · intro bars parameters context made left x n dividend series length divided evaluates isLength
    have keeps := made.keeps
    obtain rfl : context.bars = bars := keeps.bars
    have declares := Expr.evalDeclared_overDeviation keeps.aligned divided evaluates isLength
    refine ⟨Expr.evalSeries_overDeviation keeps.aligned divided evaluates isLength, ?_, fun name => ?_⟩
    · exact declares.map fun values _ => ⟨(context, some values), rfl, trivial⟩
    · exact declares.map fun values _ => ⟨_, rfl, trivial⟩

/-- The closing prices over their deviation on two bars: the last two closing prices are equal. -/
theorem window_statistics_sample :
    let bar (close : ℝ) : Bar Exact := ⟨value 1, value 9, value 0, value close, value 100⟩
    let context : Context Exact := { bars := [bar 3, bar 5, bar 5] }
    let close : Expr Exact := .call "close" []
    0 < 2 ∧ context.Made context.bars {} ∧ close.evalSeries context = .ok [value 3, value 5, value 5] ∧
      (∃ low average high deviation,
        StatisticsOf (numbersIn [value 3, value 5, value 5] 2 1) low average high deviation) ∧
      context.step (.plot (close.overDeviation close (.number (value 2)))) = .error .divisionByZero := by
  intro bar context close
  have named : Builtin.ofName? "close" = some (.price .close) := by decide
  have evaluates : close.evalSeries context = .ok [value 3, value 5, value 5] := by
    simp only [close, Expr.evalSeries, named]
    rfl
  have divided : Expr.operandOf context close (fun _ => close.evalSeries context) =
      .ok (.series [value 3, value 5, value 5]) := by
    rw [Expr.operandOf_of_isSeries (Expr.isSeries_of_produces named rfl _ _), evaluates]
    rfl
  have isLength : (Expr.number (value 2)).evalLength context = .ok 2 :=
    Expr.evalLength_number (i := 2) (by simp [Number.toInt?]) (by decide)
  have run : HasRun [value 3, value 5, value 5] 2 := by
    refine ⟨1, 5, fun k within => ?_⟩
    obtain rfl | rfl : k = 0 ∨ k = 1 := by omega
    · rfl
    · rfl
  have full : FullAt [value 3, value 5, value 5] 2 1 := by
    refine ⟨by decide, fun j _ le => ?_⟩
    obtain rfl | rfl : j = 0 ∨ j = 1 := by omega
    · exact ⟨3, rfl⟩
    · exact ⟨5, rfl⟩
  have known := (lowest_defined two_pos _).defined 1 (by decide) full
  have window := window_statistics.1 2 [value 3, value 5, value 5] 1 two_pos (.inl known)
  rcases window with ⟨low, average, high, deviation, -, -, -, -, statistics⟩
  have fails := window_statistics.2 .fresh close close (.number (value 2)) _ _ _ divided evaluates isLength
  exact ⟨two_pos, .fresh, evaluates, ⟨low, average, high, deviation, statistics⟩,
    (Or.resolve_right fails.2.1 fun given => given.1 run).2⟩

end IndicatorScript
