import IndicatorScript.Proofs.Expr.Pointwise
import IndicatorScript.Proofs.Expr.Strictness
import Mathlib.Data.List.Basic

/-!
# Scalars as series

An expression that is a scalar can be evaluated in two ways: to the one value that it has, repeated at every bar
(`Expr.evalConstant`), or as a series (`Expr.evalSeries`). Either both fail or none does, and then both give the same
values, but for a test that meets an undefined number: as a scalar it has a truth value, as a series it is undefined
(`evalSeries_of_scalar`).
-/

namespace IndicatorScript

variable {α : Type} [Number α]

/-- The number that an operation on two numbers gives, if a test gives what `test` makes of it. -/
def Operator.onNumbers? (test : Test → α → α → α) (op : Operator) (x y : α) : Option α :=
  match op with
  | .arithmetic op => if op = .divide ∧ Number.isZero y then none else some (op.apply x y)
  | .test op => some (test op x y)
  | .unknown _ => none

/-- What a test makes of two numbers as a scalar. -/
def Test.truth (op : Test) (x y : α) : α := Number.ofBool (op.holds x y)

namespace Operator

variable {op : Operator} {x y : α} {bars : Nat}

theorem exists_onNumbers? {test : Test → α → α → α} (other : Test → α → α → α) {z : α}
    (given : op.onNumbers? test x y = some z) : ∃ z', op.onNumbers? other x y = some z' := by
  cases op with
  | arithmetic op => exact ⟨z, given⟩
  | test op => exact ⟨_, rfl⟩
  | unknown symbol => cases given

theorem number_of_applyScalar_iff {v w : Value α} {z : α} :
    (∃ value, op.applyScalar v w = .ok value ∧ value.toNumber = .ok z) ↔
      ∃ x y, v.toNumber = .ok x ∧ w.toNumber = .ok y ∧ op.onNumbers? Test.truth x y = some z := by
  constructor
  · rintro ⟨value, applied, isNumber⟩
    cases op with
    | arithmetic op =>
      rcases exists_of_bind_eq_ok applied with ⟨x, isLeft, applied⟩
      rcases exists_of_bind_eq_ok applied with ⟨y, isRight, applied⟩
      refine ⟨x, y, isLeft, isRight, ?_⟩
      rw [onNumbers?]
      split at applied
      · cases applied
      · next other =>
        cases applied
        cases isNumber
        exact if_neg other
    | test op =>
      rcases exists_of_bind_eq_ok applied with ⟨x, isLeft, applied⟩
      rcases exists_of_bind_eq_ok applied with ⟨y, isRight, applied⟩
      cases applied
      cases isNumber
      exact ⟨x, y, isLeft, isRight, rfl⟩
    | unknown symbol => cases applied
  · rintro ⟨x, y, isLeft, isRight, given⟩
    cases op with
    | arithmetic op =>
      simp only [applyScalar, isLeft, isRight, bind, Except.bind]
      rw [onNumbers?] at given
      split at given
      · cases given
      · next other =>
        cases given
        exact ⟨.number (op.apply x y), if_neg other, rfl⟩
    | test op =>
      simp only [applyScalar, isLeft, isRight, bind, Except.bind]
      cases given
      exact ⟨.boolean (op.holds x y), rfl, rfl⟩
    | unknown symbol => cases given

theorem applySeries_scalars_eq_ok_iff {values : List α} :
    op.applySeries bars (.scalar x) (.scalar y) = .ok values ↔
      ∃ z, op.onNumbers? Test.applyAt x y = some z ∧ values = broadcast bars z := by
  have fits (x : α) : (Operand.scalar x).Fits bars := trivial
  have repeated (f : α → α → α) : List.zipWith f (broadcast bars x) (broadcast bars y) = broadcast bars (f x y) := by
    simp [broadcast]
  cases op with
  | arithmetic op =>
    rw [op.applySeries_of_fits (fits x) (fits y), onNumbers?, Operand.values, Operand.values, repeated, Operand.hasZero]
    split
    · simp
    · simp [eq_comm]
  | test op =>
    rw [op.applySeries_of_fits (fits x) (fits y), onNumbers?, Operand.values, Operand.values, repeated]
    simp [eq_comm]
  | unknown symbol =>
    rw [applySeries_unknown symbol (fits x) (fits y), onNumbers?]
    simp

end Operator

theorem exists_error_iff {β ε : Type} {result : Except ε β} :
    (∃ err, result = .error err) ↔ ¬ ∃ x, result = .ok x := by
  cases result <;> simp

namespace Expr

variable (context : Context α)

/-- A test that misses a number, with the numbers that its operands are. -/
inductive TestsGap : Expr α → Test → α → α → Prop where
  | intro {left right : Expr α} {op : Test} {x y : α} (isLeft : left.number? context = some x)
      (isRight : right.number? context = some y) (misses : op.Misses x y) :
      TestsGap (.binary left (.test op) right) op x y

/-- The values as a scalar and as a series. A test that misses a number has a truth value as a scalar, and is undefined
as a series. -/
structure SameValues (e : Expr α) (repeated values : List α) : Prop where
  gap : ∀ op x y, TestsGap context e op x y →
    repeated = broadcast context.bars.length (Number.ofBool (op.holds x y)) ∧
      values = broadcast context.bars.length Number.nan
  same : (∀ op x y, ¬ TestsGap context e op x y) → values = repeated

variable {context} {e left right : Expr α} {op : Operator} {values : List α}

theorem number?_eq_some_iff {x : α} :
    e.number? context = some x ↔ ∃ value, e.evalScalar context = .ok value ∧ value.toNumber = .ok x := by
  refine ⟨exists_of_number?, ?_⟩
  rintro ⟨value, evaluated, isNumber⟩
  rw [number?, evaluated]
  dsimp only
  rw [isNumber]
  rfl

theorem evalConstant_eq_ok_iff :
    e.evalConstant context = .ok values ↔
      ∃ x, e.number? context = some x ∧ values = broadcast context.bars.length x := by
  constructor
  · intro given
    rcases exists_of_bind_eq_ok given with ⟨value, evaluated, given⟩
    rcases exists_of_bind_eq_ok given with ⟨x, isNumber, given⟩
    cases given
    exact ⟨x, number?_eq_some_iff.mpr ⟨value, evaluated, isNumber⟩, rfl⟩
  · rintro ⟨x, isNumber, rfl⟩
    rcases exists_of_number? isNumber with ⟨value, evaluated, isNumber⟩
    rw [evalConstant, evaluated]
    dsimp only [bind, Except.bind]
    rw [isNumber]

/-! ## Operations -/

theorem number?_binary_eq_some_iff {z : α} :
    (binary left op right).number? context = some z ↔
      ∃ x y, left.number? context = some x ∧ right.number? context = some y ∧
        op.onNumbers? Test.truth x y = some z := by
  simp only [number?_eq_some_iff]
  constructor
  · rintro ⟨value, evaluated, isNumber⟩
    rw [evalScalar] at evaluated
    rcases exists_of_bind_eq_ok evaluated with ⟨v, evalLeft, evaluated⟩
    rcases exists_of_bind_eq_ok evaluated with ⟨w, evalRight, applied⟩
    rcases Operator.number_of_applyScalar_iff.mp ⟨value, applied, isNumber⟩ with ⟨x, y, isLeft, isRight, given⟩
    exact ⟨x, y, ⟨v, evalLeft, isLeft⟩, ⟨w, evalRight, isRight⟩, given⟩
  · rintro ⟨x, y, ⟨v, evalLeft, isLeft⟩, ⟨w, evalRight, isRight⟩, given⟩
    rw [evalScalar, evalLeft, evalRight]
    exact Operator.number_of_applyScalar_iff.mpr ⟨x, y, isLeft, isRight, given⟩

theorem evalConstant_binary_eq_ok_iff :
    (binary left op right).evalConstant context = .ok values ↔
      ∃ x y z, left.number? context = some x ∧ right.number? context = some y ∧
        op.onNumbers? Test.truth x y = some z ∧ values = broadcast context.bars.length z := by
  simp only [evalConstant_eq_ok_iff, number?_binary_eq_some_iff]
  constructor
  · rintro ⟨z, ⟨x, y, isLeft, isRight, given⟩, same⟩
    exact ⟨x, y, z, isLeft, isRight, given, same⟩
  · rintro ⟨x, y, z, isLeft, isRight, given, same⟩
    exact ⟨z, ⟨x, y, isLeft, isRight, given⟩, same⟩

theorem operandOf_eq_ok_iff (isScalar : e.isSeries context.hasSeries = false)
    {series : Unit → Except (EvalError α) (List α)} {operand : Operand α} :
    operandOf context e series = .ok operand ↔ ∃ x, e.number? context = some x ∧ operand = .scalar x := by
  rw [operandOf, if_neg (by simp [isScalar])]
  simp only [number?_eq_some_iff]
  constructor
  · intro given
    rcases exists_of_bind_eq_ok given with ⟨value, evaluated, given⟩
    rcases exists_of_bind_eq_ok given with ⟨x, isNumber, given⟩
    cases given
    exact ⟨x, ⟨value, evaluated, isNumber⟩, rfl⟩
  · rintro ⟨x, ⟨value, evaluated, isNumber⟩, rfl⟩
    rw [evaluated]
    dsimp only [bind, Except.bind]
    rw [isNumber]

theorem evalSeries_binary_eq_ok_iff (isScalar : (binary left op right).isSeries context.hasSeries = false) :
    (binary left op right).evalSeries context = .ok values ↔
      ∃ x y z, left.number? context = some x ∧ right.number? context = some y ∧
        op.onNumbers? Test.applyAt x y = some z ∧ values = broadcast context.bars.length z := by
  rcases Bool.or_eq_false_iff.mp isScalar with ⟨scalarLeft, scalarRight⟩
  rw [evalSeries]
  constructor
  · intro given
    rcases exists_of_bind_eq_ok given with ⟨operand, evalLeft, given⟩
    rcases exists_of_bind_eq_ok given with ⟨operand', evalRight, given⟩
    rcases (operandOf_eq_ok_iff scalarLeft).mp evalLeft with ⟨x, isLeft, rfl⟩
    rcases (operandOf_eq_ok_iff scalarRight).mp evalRight with ⟨y, isRight, rfl⟩
    rcases Operator.applySeries_scalars_eq_ok_iff.mp given with ⟨z, given, same⟩
    exact ⟨x, y, z, isLeft, isRight, given, same⟩
  · rintro ⟨x, y, z, isLeft, isRight, given, same⟩
    rw [(operandOf_eq_ok_iff scalarLeft).mpr ⟨x, isLeft, rfl⟩, (operandOf_eq_ok_iff scalarRight).mpr ⟨y, isRight, rfl⟩]
    exact Operator.applySeries_scalars_eq_ok_iff.mpr ⟨z, given, same⟩

/-! ## Names and calls -/

theorem evalSeries_name_eq_ok_iff {n : String} (isScalar : context.hasSeries n = false) :
    (name n).evalSeries context = .ok values ↔ (name n).evalConstant context = .ok values := by
  rw [evalSeries, Context.hasSeries_eq_false_iff.mp isScalar, evalConstant, evalScalar]
  cases context.scalar? n with
  | none =>
    constructor
    · intro given
      cases given
    · intro given
      cases given
  | some value => exact Iff.rfl

section Call

variable {function : String}

theorem number?_magnitude_eq_some_iff (named : Builtin.ofName? function = some .magnitude) {z : α} :
    (call function [e]).number? context = some z ↔ ∃ x, e.number? context = some x ∧ z = Number.abs x := by
  simp only [number?_eq_some_iff, evalScalar, named]
  constructor
  · rintro ⟨value, evaluated, isNumber⟩
    rcases exists_of_bind_eq_ok evaluated with ⟨v, evalArgument, evaluated⟩
    rcases exists_of_bind_eq_ok evaluated with ⟨x, isArgument, evaluated⟩
    cases evaluated
    cases isNumber
    exact ⟨x, ⟨v, evalArgument, isArgument⟩, rfl⟩
  · rintro ⟨x, ⟨v, evalArgument, isArgument⟩, rfl⟩
    refine ⟨.number (Number.abs x), ?_, rfl⟩
    rw [if_neg (by simp [Builtin.signature]), evalArgument]
    dsimp only [bind, Except.bind]
    rw [isArgument]

theorem number?_choice_eq_some_iff {which : Choice} (named : Builtin.ofName? function = some (.choice which)) {z : α} :
    (call function [left, right]).number? context = some z ↔
      ∃ x y, left.number? context = some x ∧ right.number? context = some y ∧ z = which.apply x y := by
  simp only [number?_eq_some_iff, evalScalar, named]
  constructor
  · rintro ⟨value, evaluated, isNumber⟩
    rcases exists_of_bind_eq_ok evaluated with ⟨v, evalLeft, evaluated⟩
    rcases exists_of_bind_eq_ok evaluated with ⟨x, isLeft, evaluated⟩
    rcases exists_of_bind_eq_ok evaluated with ⟨w, evalRight, evaluated⟩
    rcases exists_of_bind_eq_ok evaluated with ⟨y, isRight, evaluated⟩
    cases evaluated
    cases isNumber
    exact ⟨x, y, ⟨v, evalLeft, isLeft⟩, ⟨w, evalRight, isRight⟩, rfl⟩
  · rintro ⟨x, y, ⟨v, evalLeft, isLeft⟩, ⟨w, evalRight, isRight⟩, rfl⟩
    refine ⟨.number (which.apply x y), ?_, rfl⟩
    rw [if_neg (by simp [Builtin.signature]), evalLeft, evalRight]
    dsimp only [bind, Except.bind]
    rw [isLeft]
    dsimp only
    rw [isRight]

theorem evalSeries_magnitude_eq_ok_iff (named : Builtin.ofName? function = some .magnitude)
    (isScalar : e.isSeries context.hasSeries = false) :
    (call function [e]).evalSeries context = .ok values ↔ (call function [e]).evalConstant context = .ok values := by
  simp only [evalConstant_eq_ok_iff, number?_magnitude_eq_some_iff named, evalSeries, named]
  constructor
  · intro given
    rcases exists_of_bind_eq_ok given with ⟨operand, evaluated, given⟩
    rcases (operandOf_eq_ok_iff isScalar).mp evaluated with ⟨x, isNumber, rfl⟩
    cases given
    exact ⟨_, ⟨x, isNumber, rfl⟩, rfl⟩
  · rintro ⟨_, ⟨x, isNumber, rfl⟩, rfl⟩
    rw [(operandOf_eq_ok_iff isScalar).mpr ⟨x, isNumber, rfl⟩]
    rfl

theorem evalSeries_choice_eq_ok_iff {which : Choice} (named : Builtin.ofName? function = some (.choice which))
    (scalarLeft : left.isSeries context.hasSeries = false) (scalarRight : right.isSeries context.hasSeries = false) :
    (call function [left, right]).evalSeries context = .ok values ↔
      (call function [left, right]).evalConstant context = .ok values := by
  simp only [evalConstant_eq_ok_iff, number?_choice_eq_some_iff named, evalSeries, named]
  constructor
  · intro given
    rcases exists_of_bind_eq_ok given with ⟨operand, evalLeft, given⟩
    rcases exists_of_bind_eq_ok given with ⟨operand', evalRight, given⟩
    rcases (operandOf_eq_ok_iff scalarLeft).mp evalLeft with ⟨x, isLeft, rfl⟩
    rcases (operandOf_eq_ok_iff scalarRight).mp evalRight with ⟨y, isRight, rfl⟩
    cases given
    exact ⟨_, ⟨x, y, isLeft, isRight, rfl⟩, rfl⟩
  · rintro ⟨_, ⟨x, y, isLeft, isRight, rfl⟩, rfl⟩
    rw [(operandOf_eq_ok_iff scalarLeft).mpr ⟨x, isLeft, rfl⟩, (operandOf_eq_ok_iff scalarRight).mpr ⟨y, isRight, rfl⟩]
    rfl

theorem evalSeries_call_eq_ok_iff {arguments : List (Expr α)}
    (isScalar : (call function arguments).isSeries context.hasSeries = false) :
    (call function arguments).evalSeries context = .ok values ↔
      (call function arguments).evalConstant context = .ok values := by
  by_cases resolved : (call function arguments).Resolved context
  · rcases resolved with ⟨builtin, named, accepts⟩
    simp only [Signature.accepts, Bool.and_eq_true, decide_eq_true_eq] at accepts
    rcases accepts with ⟨enough, notMore⟩
    cases builtin with
    | price | composite | windowed | convergence | band => simp [Expr.isSeries, named, Builtin.signature] at isScalar
    | magnitude =>
      obtain ⟨x, rfl⟩ := List.length_eq_one_iff.mp (Nat.le_antisymm notMore enough)
      refine evalSeries_magnitude_eq_ok_iff named ?_
      simpa [Expr.isSeries, named, Builtin.signature, anySeries] using isScalar
    | choice which =>
      obtain ⟨x, y, rfl⟩ := List.length_eq_two.mp (Nat.le_antisymm notMore enough)
      have scalars : x.isSeries context.hasSeries = false ∧ y.isSeries context.hasSeries = false := by
        simpa [Expr.isSeries, named, Builtin.signature, anySeries] using isScalar
      exact evalSeries_choice_eq_ok_iff named scalars.1 scalars.2
    | input => simp only [evalSeries, named]
  -- a call that no built-in function takes fails both ways
  · constructor
    · intro given
      exact absurd (evalSeries_resolves context _ values given _ .self) resolved
    · intro given
      exact absurd (evalConstant_resolves context _ values given _ .self) resolved

end Call

/-! ## Both ways -/

theorem SameValues.binary {x y z z' : α} (isLeft : left.number? context = some x)
    (isRight : right.number? context = some y) (given : op.onNumbers? Test.truth x y = some z)
    (given' : op.onNumbers? Test.applyAt x y = some z') :
    (binary left op right).SameValues context (broadcast context.bars.length z) (broadcast context.bars.length z') := by
  cases op with
  | arithmetic op =>
    cases given.symm.trans given'
    refine ⟨fun op x y gap => ?_, fun _ => rfl⟩
    cases gap
  | test op =>
    cases given
    cases given'
    constructor
    · rintro _ x' y' ⟨isLeft', isRight', misses⟩
      cases isLeft.symm.trans isLeft'
      cases isRight.symm.trans isRight'
      rw [Test.applyAt_of_misses misses]
      exact ⟨rfl, rfl⟩
    · intro noGap
      rw [Test.applyAt_of_not_misses fun misses => noGap op x y ⟨isLeft, isRight, misses⟩]
      rfl
  | unknown symbol => cases given

/-- Either both ways fail or both give the values that they should. -/
structure BothWays (context : Context α) (e : Expr α) : Prop where
  given : (∃ repeated, e.evalConstant context = .ok repeated) ↔ ∃ values, e.evalSeries context = .ok values
  same : ∀ repeated values, e.evalConstant context = .ok repeated → e.evalSeries context = .ok values →
    e.SameValues context repeated values

theorem BothWays.of_iff (noTest : ∀ op x y, ¬ e.TestsGap context op x y)
    (same : ∀ values, e.evalSeries context = .ok values ↔ e.evalConstant context = .ok values) :
    e.BothWays context := by
  refine ⟨exists_congr fun values => (same values).symm, fun repeated values given given' => ?_⟩
  cases given.symm.trans ((same values).mp given')
  exact ⟨fun op x y gap => absurd gap (noTest op x y), fun _ => rfl⟩

theorem BothWays.binary (isScalar : (binary left op right).isSeries context.hasSeries = false) :
    (binary left op right).BothWays context := by
  constructor
  · simp only [evalConstant_binary_eq_ok_iff, evalSeries_binary_eq_ok_iff isScalar]
    constructor
    · rintro ⟨_, x, y, z, isLeft, isRight, given, -⟩
      rcases Operator.exists_onNumbers? Test.applyAt given with ⟨z', given'⟩
      exact ⟨_, x, y, z', isLeft, isRight, given', rfl⟩
    · rintro ⟨_, x, y, z, isLeft, isRight, given, -⟩
      rcases Operator.exists_onNumbers? Test.truth given with ⟨z', given'⟩
      exact ⟨_, x, y, z', isLeft, isRight, given', rfl⟩
  · intro repeated values given given'
    rcases evalConstant_binary_eq_ok_iff.mp given with ⟨x, y, z, isLeft, isRight, made, rfl⟩
    rcases (evalSeries_binary_eq_ok_iff isScalar).mp given' with ⟨x', y', z', isLeft', isRight', made', rfl⟩
    cases isLeft.symm.trans isLeft'
    cases isRight.symm.trans isRight'
    exact .binary isLeft isRight made made'

theorem bothWays_of_scalar (isScalar : e.isSeries context.hasSeries = false) : e.BothWays context := by
  cases e with
  | number | text | boolean | index =>
    exact .of_iff (fun op x y gap => by cases gap) fun values => Iff.rfl
  | name n => exact .of_iff (fun op x y gap => by cases gap) fun values => evalSeries_name_eq_ok_iff isScalar
  | call function arguments =>
    exact .of_iff (fun op x y gap => by cases gap) fun values => evalSeries_call_eq_ok_iff isScalar
  | binary left op right => exact .binary isScalar

end Expr

theorem evalSeries_of_scalar (context : Context α) {e : Expr α} (isScalar : e.isSeries context.hasSeries = false) :
    ((∃ err, e.evalConstant context = .error err) ↔ ∃ err, e.evalSeries context = .error err) ∧
    ∀ repeated values, e.evalConstant context = .ok repeated → e.evalSeries context = .ok values →
      e.SameValues context repeated values := by
  have bothWays := Expr.bothWays_of_scalar isScalar
  rw [exists_error_iff, exists_error_iff]
  exact ⟨not_congr bothWays.given, bothWays.same⟩

namespace Sample

def gap : Context Float :=
  { bars := [⟨1.0, 3.0, 1.0, 2.0, 10.0⟩, ⟨2.0, 5.0, 0.0, 0.0, 20.0⟩]
    parameters := ⟨[("gap", .number (0.0 / 0.0))]⟩ }

def different : Expr Float := .binary (.name "gap") (.test .notEqual) (.number 1.0)

theorem different_testsGap : different.TestsGap gap .notEqual (0.0 / 0.0) 1.0 :=
  .intro rfl rfl (.inl ⟨by decide, by decide +kernel⟩)

end Sample

theorem evalSeries_of_scalar_sample :
    Sample.different.isSeries Sample.gap.hasSeries = false ∧
      Sample.different.TestsGap Sample.gap .notEqual (0.0 / 0.0) 1.0 ∧
      Sample.different.evalConstant Sample.gap = .ok [1.0, 1.0] ∧
      Sample.different.evalSeries Sample.gap = .ok [0.0 / 0.0, 0.0 / 0.0] := by
  have repeated : Sample.different.evalConstant Sample.gap = .ok [1.0, 1.0] := rfl
  rcases evalSeries_of_scalar Sample.gap (e := Sample.different) rfl with ⟨fails, same⟩
  refine ⟨rfl, Sample.different_testsGap, repeated, ?_⟩
  cases given : Sample.different.evalSeries Sample.gap with
  | error err =>
    rcases fails.mpr ⟨err, given⟩ with ⟨err', failed⟩
    rw [repeated] at failed
    cases failed
  | ok values =>
    rw [((same _ values repeated given).gap _ _ _ Sample.different_testsGap).2]
    rfl

end IndicatorScript
