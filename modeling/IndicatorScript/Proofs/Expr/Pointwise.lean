import IndicatorScript.Number.Double
import IndicatorScript.Proofs.Expr.Alignment

/-!
# Series bar by bar

What an expression is at one bar, by recursion over the expression (`Expr.valueAt`), and the operands that the series
evaluator finds, which have these values (`evalSeries_pointwise`). Nothing can go wrong on the way but a division, by a
number that is zero or by a series that is zero at some bar (`Expr.DividesByZero`).
-/

namespace IndicatorScript

def Builtin.produces? (function : String) : Option Produces := (Builtin.ofName? function).map (·.signature.produces)

variable {α : Type} [Number α]

/-- One of the numbers that a test looks at is undefined. -/
def Test.Misses (op : Test) (x y : α) : Prop := (op ≠ .not ∧ Number.isNaN x = true) ∨ Number.isNaN y = true

theorem Test.applyAt_of_misses {op : Test} {x y : α} (misses : op.Misses x y) : op.applyAt x y = Number.nan := by
  refine if_pos ?_
  rcases misses with ⟨binary, gap⟩ | gap
  · simp [isUnary, binary, gap]
  · simp [gap]

theorem Test.applyAt_of_not_misses {op : Test} {x y : α} (defined : ¬ op.Misses x y) :
    op.applyAt x y = Number.ofBool (op.holds x y) := by
  refine if_neg fun misses => defined ?_
  simpa [Misses, isUnary] using misses

/-- What an operator makes of the values of its operands at one bar: a test gives an undefined number where it looks at
one (`Test.applyAt_of_misses`), and elsewhere one or zero, as it holds or not (`Test.applyAt_of_not_misses`). -/
def Operator.applyAt (op : Operator) (x y : α) : Option α :=
  match op with
  | .arithmetic op => some (op.apply x y)
  | .test op => some (op.applyAt x y)
  | .unknown _ => none

namespace Expr

variable (context : Context α)

def number? (e : Expr α) : Option α :=
  match e.evalScalar context with
  | .ok value => value.toNumber.toOption
  | .error _ => none

/-- The value at a bar. A scalar is the same at every bar, and what a built-in function makes is taken as it is. -/
def valueAt (i : Nat) : Expr α → Option α
  | .name n => if context.hasSeries n then (context.series.get? n).bind (·[i]?) else number? context (.name n)
  | .call function arguments =>
      if (call function arguments).isSeries context.hasSeries then
        match Builtin.ofName? function, arguments with
        | some .magnitude, [x] => (valueAt i x).map Number.abs
        | some (.choice which), [x, y] => do
            let x ← valueAt i x
            let y ← valueAt i y
            some (which.apply x y)
        | _, _ => ((call function arguments).evalSeries context).toOption.bind (·[i]?)
      else number? context (.call function arguments)
  | .binary left op right =>
      if (binary left op right).isSeries context.hasSeries then do
        let x ← valueAt i left
        let y ← valueAt i right
        op.applyAt x y
      else number? context (.binary left op right)
  | e => number? context e

/-- An operand that no number can be divided by: zero as a number, also when there are no bars, or at some bar. -/
def IsZero (e : Expr α) : Prop :=
  if e.isSeries context.hasSeries then
    ∃ i x, i < context.bars.length ∧ e.valueAt context i = some x ∧ Number.isZero x = true
  else ∃ x, e.number? context = some x ∧ Number.isZero x = true

/-- What an expression is composed of, itself included. What a built-in function makes a series of is no part. -/
inductive HasPart (part : Expr α) : Expr α → Prop where
  | self : HasPart part part
  | left {left right : Expr α} {op : Operator} (isPart : HasPart part left) : HasPart part (.binary left op right)
  | right {left right : Expr α} {op : Operator} (isPart : HasPart part right) : HasPart part (.binary left op right)
  | argument {function : String} {arguments : List (Expr α)} {e : Expr α}
      (elementwise : Builtin.produces? function = some .elementwise) (mem : e ∈ arguments)
      (isPart : HasPart part e) : HasPart part (.call function arguments)

/-- The expressions that have a value at each bar by the values of their parts. -/
inductive Composed : Expr α → Prop where
  | number (x : α) : Composed (.number x)
  | boolean (b : Bool) : Composed (.boolean b)
  | series {name : String} (isSeries : context.hasSeries name = true) : Composed (.name name)
  | scalar {name : String} {value : Value α} {x : α} (bound : context.scalar? name = some value)
      (isNumber : value.toNumber = .ok x) : Composed (.name name)
  | leaf {function : String} (arguments : List (Expr α))
      (produces : Builtin.produces? function = some .series) :
      Composed (.call function arguments)
  | operation {left right : Expr α} {op : Operator} (known : ∀ symbol, op ≠ .unknown symbol) (first : Composed left)
      (second : Composed right) : Composed (.binary left op right)
  | magnitude {function : String} {x : Expr α} (named : Builtin.ofName? function = some .magnitude)
      (argument : Composed x) : Composed (.call function [x])
  | choice {function : String} {which : Choice} {x y : Expr α}
      (named : Builtin.ofName? function = some (.choice which)) (first : Composed x) (second : Composed y) :
      Composed (.call function [x, y])

/-- No scalar among the parts fails, and no series of a built-in function. -/
structure PartsSucceed (e : Expr α) : Prop where
  scalar : ∀ part, HasPart part e → part.isSeries context.hasSeries = false →
    ∃ value, part.evalScalar context = .ok value
  leaf : ∀ function arguments, HasPart (.call function arguments) e →
    Builtin.produces? function = some .series →
    ∃ values, (call function arguments).evalSeries context = .ok values

/-- Some division of series among the parts has a divisor that is zero. -/
def DividesByZero (e : Expr α) : Prop :=
  ∃ left right, HasPart (.binary left (.arithmetic .divide) right) e ∧
    (binary left (.arithmetic .divide) right).isSeries context.hasSeries = true ∧ right.IsZero context

end Expr

/-! ## Results but for a division by zero -/

section Results

variable {α β γ : Type} {zero further : Prop} {p : β → Prop} {q : γ → Prop}

/-- A result that is a division by zero if there is one, and that is given and has the property if there is none. -/
def GivesUnless (zero : Prop) (p : β → Prop) (result : Except (EvalError α) β) : Prop :=
  (zero ∧ result = .error .divisionByZero) ∨ ¬ zero ∧ ∃ x, result = .ok x ∧ p x

namespace GivesUnless

theorem ok {x : β} (holds : p x) (never : ¬ zero) : GivesUnless zero p (.ok x : Except (EvalError α) β) :=
  .inr ⟨never, x, rfl, holds⟩

theorem bind {result : Except (EvalError α) β} {next : β → Except (EvalError α) γ} (first : GivesUnless zero p result)
    (second : ∀ x, p x → GivesUnless further q (next x)) : GivesUnless (zero ∨ further) q (result >>= next) := by
  rcases first with ⟨isZero, rfl⟩ | ⟨never, x, rfl, holds⟩
  · exact .inl ⟨.inl isZero, rfl⟩
  · rcases second x holds with ⟨isZero, same⟩ | ⟨never', given⟩
    · exact .inl ⟨.inr isZero, same⟩
    · exact .inr ⟨fun either => either.elim never never', given⟩

theorem map {result : Except (EvalError α) β} {next : β → Except (EvalError α) γ} (first : GivesUnless zero p result)
    (second : ∀ x, p x → ∃ y, next x = .ok y ∧ q y) : GivesUnless zero q (result >>= next) := by
  rcases first with ⟨isZero, rfl⟩ | ⟨never, x, rfl, holds⟩
  · exact .inl ⟨isZero, rfl⟩
  · exact .inr ⟨never, second x holds⟩

theorem congr {result : Except (EvalError α) β} (gives : GivesUnless zero p result) (same : further ↔ zero) :
    GivesUnless further p result := by
  rwa [propext same]

end GivesUnless

end Results

/-! ## Scalars and series -/

namespace Expr

variable {context : Context α} {e : Expr α} {i : Nat}

theorem exists_of_number? {x : α} (isNumber : e.number? context = some x) :
    ∃ value, e.evalScalar context = .ok value ∧ value.toNumber = .ok x := by
  unfold number? at isNumber
  split at isNumber
  · next value evaluated => exact ⟨value, evaluated, eq_ok_of_toOption isNumber⟩
  · cases isNumber

theorem valueAt_of_scalar (isScalar : e.isSeries context.hasSeries = false) :
    e.valueAt context i = e.number? context := by
  cases e with
  | name n =>
    have absent : context.hasSeries n = false := isScalar
    rw [valueAt, if_neg (by simp [absent])]
  | call | binary =>
    unfold valueAt
    exact if_neg (by simp [isScalar])
  | _ => rfl

omit [Number α] in
theorem anySeries_of_mem {declared : String → Bool} {arguments : List (Expr α)} (mem : e ∈ arguments)
    (isSeries : e.isSeries declared = true) : anySeries declared arguments = true := by
  induction arguments with
  | nil => cases mem
  | cons first rest ih =>
    rw [anySeries, Bool.or_eq_true]
    rcases List.mem_cons.mp mem with rfl | mem
    · exact .inl isSeries
    · exact .inr (ih mem)

omit [Number α] in
theorem HasPart.isSeries {declared : String → Bool} {part : Expr α} (isPart : HasPart part e)
    (isSeries : part.isSeries declared = true) : e.isSeries declared = true := by
  induction isPart with
  | self => exact isSeries
  | left _ ih => simp [Expr.isSeries, ih]
  | right _ ih => simp [Expr.isSeries, ih]
  | argument elementwise mem _ ih =>
    rcases Option.map_eq_some_iff.mp elementwise with ⟨builtin, named, produces⟩
    simp [Expr.isSeries, named, produces, anySeries_of_mem mem ih]

theorem DividesByZero.isSeries (divides : e.DividesByZero context) : e.isSeries context.hasSeries = true := by
  rcases divides with ⟨_, _, isPart, isSeries, -⟩
  exact isPart.isSeries isSeries

theorem PartsSucceed.part {part : Expr α} (succeed : e.PartsSucceed context)
    (isPart : ∀ other, HasPart other part → HasPart other e) : part.PartsSucceed context :=
  ⟨fun other isOf => succeed.scalar other (isPart other isOf),
    fun function arguments isOf => succeed.leaf function arguments (isPart _ isOf)⟩

theorem PartsSucceed.argument {function : String} {arguments : List (Expr α)} {builtin : Builtin}
    (succeed : (call function arguments).PartsSucceed context) (named : Builtin.ofName? function = some builtin)
    (elementwise : builtin.signature.produces = .elementwise) (mem : e ∈ arguments) : e.PartsSucceed context :=
  succeed.part fun _ => .argument (by rw [Builtin.produces?, named, Option.map_some, elementwise]) mem

theorem toNumber_of_applyScalar {op : Operator} {x y value : Value α} (applied : op.applyScalar x y = .ok value) :
    ∃ number, value.toNumber = .ok number := by
  cases op with
  | arithmetic op =>
    rcases exists_of_bind_eq_ok applied with ⟨x, -, applied⟩
    rcases exists_of_bind_eq_ok applied with ⟨y, -, applied⟩
    split at applied
    · cases applied
    · cases applied
      exact ⟨_, rfl⟩
  | test op =>
    rcases exists_of_bind_eq_ok applied with ⟨x, -, applied⟩
    rcases exists_of_bind_eq_ok applied with ⟨y, -, applied⟩
    cases applied
    exact ⟨_, rfl⟩
  | unknown symbol => cases applied

theorem Composed.exists_toNumber {value : Value α} (composed : e.Composed context)
    (isScalar : e.isSeries context.hasSeries = false) (evaluated : e.evalScalar context = .ok value) :
    ∃ x, value.toNumber = .ok x := by
  cases composed with
  | number x =>
    cases evaluated
    exact ⟨x, rfl⟩
  | boolean b =>
    cases evaluated
    exact ⟨_, rfl⟩
  | series isSeries =>
    rw [show context.hasSeries _ = false from isScalar] at isSeries
    cases isSeries
  | scalar bound isNumber =>
    rw [evalScalar, bound] at evaluated
    cases evaluated
    exact ⟨_, isNumber⟩
  | leaf arguments produces =>
    rcases Option.map_eq_some_iff.mp produces with ⟨builtin, named, produces⟩
    simp [Expr.isSeries, named, produces] at isScalar
  | operation =>
    rw [evalScalar] at evaluated
    rcases exists_of_bind_eq_ok evaluated with ⟨x, -, evaluated⟩
    rcases exists_of_bind_eq_ok evaluated with ⟨y, -, evaluated⟩
    exact toNumber_of_applyScalar evaluated
  | magnitude named =>
    simp only [evalScalar, named] at evaluated
    rcases exists_of_bind_eq_ok evaluated with ⟨x, -, evaluated⟩
    rcases exists_of_bind_eq_ok evaluated with ⟨x, -, evaluated⟩
    cases evaluated
    exact ⟨_, rfl⟩
  | choice named =>
    simp only [evalScalar, named] at evaluated
    rcases exists_of_bind_eq_ok evaluated with ⟨x, -, evaluated⟩
    rcases exists_of_bind_eq_ok evaluated with ⟨x, -, evaluated⟩
    rcases exists_of_bind_eq_ok evaluated with ⟨y, -, evaluated⟩
    rcases exists_of_bind_eq_ok evaluated with ⟨y, -, evaluated⟩
    cases evaluated
    exact ⟨_, rfl⟩

theorem Composed.exists_number? (composed : e.Composed context) (succeed : e.PartsSucceed context)
    (isScalar : e.isSeries context.hasSeries = false) : ∃ x, e.number? context = some x := by
  rcases succeed.scalar e .self isScalar with ⟨value, evaluated⟩
  rcases composed.exists_toNumber isScalar evaluated with ⟨x, isNumber⟩
  refine ⟨x, ?_⟩
  rw [Expr.number?, evaluated]
  dsimp only
  rw [isNumber]
  rfl

/-- A series with the values that the expression has at each bar. -/
def HasValues (context : Context α) (e : Expr α) (values : List α) : Prop :=
  values.length = context.bars.length ∧ ∀ i < context.bars.length, values[i]? = e.valueAt context i

/-- An operand with the values that the expression has at each bar, and zero where the expression is. -/
structure HasOperand (context : Context α) (e : Expr α) (operand : Operand α) : Prop where
  fits : operand.Fits context.bars.length
  values : ∀ i < context.bars.length, (operand.values context.bars.length)[i]? = e.valueAt context i
  zero : operand.hasZero = true ↔ e.IsZero context

theorem HasValues.operand {values : List α} (isSeries : e.isSeries context.hasSeries = true)
    (has : e.HasValues context values) : e.HasOperand context (.series values) := by
  rcases has with ⟨length, each⟩
  refine ⟨length, each, ?_⟩
  rw [IsZero, if_pos isSeries, Operand.hasZero, List.any_eq_true]
  constructor
  · rintro ⟨x, mem, isZero⟩
    rcases List.mem_iff_getElem?.mp mem with ⟨i, found⟩
    have inside : i < context.bars.length := length ▸ (List.getElem?_eq_some_iff.mp found).1
    exact ⟨i, x, inside, (each i inside).symm.trans found, isZero⟩
  · rintro ⟨i, x, inside, found, isZero⟩
    exact ⟨x, List.mem_iff_getElem?.mpr ⟨i, (each i inside).trans found⟩, isZero⟩

theorem hasOperand_scalar {x : α} (isScalar : e.isSeries context.hasSeries = false)
    (isNumber : e.number? context = some x) : e.HasOperand context (.scalar x) := by
  refine ⟨trivial, fun i inside => ?_, ?_⟩
  · rw [valueAt_of_scalar isScalar, isNumber]
    simp [Operand.values, broadcast, inside]
  · rw [IsZero, if_neg (by simp [isScalar]), isNumber, Operand.hasZero]
    simp

theorem Composed.operand (composed : e.Composed context) (succeed : e.PartsSucceed context)
    (series : e.isSeries context.hasSeries = true →
      GivesUnless (e.DividesByZero context) (e.HasValues context) (e.evalSeries context)) :
    GivesUnless (e.DividesByZero context) (e.HasOperand context)
      (operandOf context e fun _ => e.evalSeries context) := by
  unfold operandOf
  split
  · next isSeries => exact (series isSeries).map fun values has => ⟨.series values, rfl, has.operand isSeries⟩
  · next isScalar =>
    have isScalar : e.isSeries context.hasSeries = false := by simpa using isScalar
    rcases composed.exists_number? succeed isScalar with ⟨x, isNumber⟩
    rcases exists_of_number? isNumber with ⟨value, evaluated, same⟩
    rw [evaluated]
    dsimp only [bind, Except.bind]
    rw [same]
    refine .ok (hasOperand_scalar isScalar isNumber) fun divides => ?_
    rw [divides.isSeries] at isScalar
    cases isScalar

/-! ## Values at a bar -/

theorem valueAt_binary {left right : Expr α} {op : Operator}
    (isSeries : (binary left op right).isSeries context.hasSeries = true) :
    (binary left op right).valueAt context i = (do
      let x ← left.valueAt context i
      let y ← right.valueAt context i
      op.applyAt x y) := by
  rw [valueAt, if_pos isSeries]

theorem valueAt_made {function : String} {arguments : List (Expr α)}
    (produces : Builtin.produces? function = some .series) :
    (call function arguments).valueAt context i =
      ((call function arguments).evalSeries context).toOption.bind (·[i]?) := by
  rcases Option.map_eq_some_iff.mp produces with ⟨builtin, named, isLeaf⟩
  have isSeries : (call function arguments).isSeries context.hasSeries = true := by
    simp [Expr.isSeries, named, isLeaf]
  unfold valueAt
  rw [if_pos isSeries, named]
  cases builtin with
  | magnitude | choice | input => cases isLeaf
  | _ => rfl

theorem valueAt_magnitude {function : String} {x : Expr α} (named : Builtin.ofName? function = some .magnitude)
    (isSeries : (call function [x]).isSeries context.hasSeries = true) :
    (call function [x]).valueAt context i = (x.valueAt context i).map Number.abs := by
  rw [valueAt, if_pos isSeries]
  exact named

theorem valueAt_choice {function : String} {which : Choice} {x y : Expr α}
    (named : Builtin.ofName? function = some (.choice which))
    (isSeries : (call function [x, y]).isSeries context.hasSeries = true) :
    (call function [x, y]).valueAt context i = (do
      let x ← x.valueAt context i
      let y ← y.valueAt context i
      some (which.apply x y)) := by
  rw [valueAt, if_pos isSeries]
  exact named

theorem HasOperand.map {part : Expr α} {x : Operand α} (has : part.HasOperand context x) {f : α → α}
    (value : ∀ i, e.valueAt context i = (part.valueAt context i).map f) :
    e.HasValues context (x.map context.bars.length f) := by
  refine ⟨has.fits.length_map f, fun i inside => ?_⟩
  rw [Operand.map_eq, List.getElem?_map, has.values i inside, value]

theorem HasOperand.zipWith {left right : Expr α} {x y : Operand α} (hasLeft : left.HasOperand context x)
    (hasRight : right.HasOperand context y) {f : α → α → α}
    (value : ∀ i, e.valueAt context i = do
      let x ← left.valueAt context i
      let y ← right.valueAt context i
      some (f x y)) :
    e.HasValues context (List.zipWith f (x.values context.bars.length) (y.values context.bars.length)) := by
  refine ⟨hasLeft.fits.length_zipWith_values hasRight.fits f, fun i inside => ?_⟩
  rw [List.getElem?_zipWith, hasLeft.values i inside, hasRight.values i inside, value]
  cases left.valueAt context i <;> cases right.valueAt context i <;> rfl

/-! ## Divisions by zero -/

theorem dividesByZero_binary_iff {left right : Expr α} {op : Operator}
    (isSeries : (binary left op right).isSeries context.hasSeries = true) :
    (binary left op right).DividesByZero context ↔
      left.DividesByZero context ∨ right.DividesByZero context ∨ op = .arithmetic .divide ∧ right.IsZero context := by
  constructor
  · rintro ⟨dividend, divisor, isPart, divides⟩
    cases isPart with
    | self => exact .inr (.inr ⟨rfl, divides.2⟩)
    | left isPart => exact .inl ⟨dividend, divisor, isPart, divides⟩
    | right isPart => exact .inr (.inl ⟨dividend, divisor, isPart, divides⟩)
  · rintro (⟨dividend, divisor, isPart, divides⟩ | ⟨dividend, divisor, isPart, divides⟩ | ⟨rfl, zero⟩)
    · exact ⟨dividend, divisor, .left isPart, divides⟩
    · exact ⟨dividend, divisor, .right isPart, divides⟩
    · exact ⟨left, right, .self, isSeries, zero⟩

theorem dividesByZero_call_iff {function : String} {arguments : List (Expr α)} {builtin : Builtin}
    (named : Builtin.ofName? function = some builtin) (elementwise : builtin.signature.produces = .elementwise) :
    (call function arguments).DividesByZero context ↔ ∃ argument ∈ arguments, argument.DividesByZero context := by
  constructor
  · rintro ⟨dividend, divisor, isPart, divides⟩
    cases isPart with
    | argument _ mem isPart => exact ⟨_, mem, dividend, divisor, isPart, divides⟩
  · rintro ⟨argument, mem, dividend, divisor, isPart, divides⟩
    refine ⟨dividend, divisor, .argument ?_ mem isPart, divides⟩
    rw [Builtin.produces?, named, Option.map_some, elementwise]

/-! ## Series -/

theorem applySeries_gives {left right : Expr α} {op : Operator} {x y : Operand α}
    (known : ∀ symbol, op ≠ .unknown symbol)
    (isSeries : (binary left op right).isSeries context.hasSeries = true) (hasLeft : left.HasOperand context x)
    (hasRight : right.HasOperand context y) :
    GivesUnless (op = .arithmetic .divide ∧ right.IsZero context) ((binary left op right).HasValues context)
      (op.applySeries context.bars.length x y) := by
  cases op with
  | arithmetic op =>
    rw [op.applySeries_of_fits hasLeft.fits hasRight.fits, ← hasRight.zero]
    split
    · next zero => exact .inl ⟨⟨congrArg Operator.arithmetic zero.1, zero.2⟩, rfl⟩
    · next other =>
      refine .ok (hasLeft.zipWith hasRight fun i => valueAt_binary isSeries) fun zero => ?_
      exact other ⟨Operator.arithmetic.inj zero.1, zero.2⟩
  | test op =>
    rw [op.applySeries_of_fits hasLeft.fits hasRight.fits]
    exact .ok (hasLeft.zipWith hasRight fun i => valueAt_binary isSeries) nofun
  | unknown symbol => exact absurd rfl (known symbol)

theorem evalSeries_stored (aligned : context.Aligned) {n : String} (stored : context.hasSeries n = true) :
    GivesUnless ((name n).DividesByZero context) ((name n).HasValues context) ((name n).evalSeries context) := by
  rcases Option.isSome_iff_exists.mp stored with ⟨values, bound⟩
  have bound : context.series.get? n = some values := bound
  rw [Expr.evalSeries, bound]
  refine .ok ⟨aligned n values bound, fun i _ => ?_⟩ ?_
  · rw [valueAt, if_pos stored, bound]
    rfl
  · rintro ⟨_, _, isPart, -⟩
    cases isPart

theorem Composed.evalSeries (aligned : context.Aligned) (composed : e.Composed context)
    (succeed : e.PartsSucceed context) (isSeries : e.isSeries context.hasSeries = true) :
    GivesUnless (e.DividesByZero context) (e.HasValues context) (e.evalSeries context) := by
  induction composed with
  | number | boolean => cases isSeries
  | series | scalar => exact evalSeries_stored aligned isSeries
  | leaf arguments produces =>
    rcases succeed.leaf _ arguments .self produces with ⟨values, given⟩
    have length := (evalSeries_yields aligned _).gives values given
    rw [given]
    refine .ok ⟨length, fun i _ => ?_⟩ ?_
    · rw [valueAt_made produces, given]
      rfl
    -- divisions inside the call are none of its parts
    · rintro ⟨_, _, isPart, -⟩
      cases isPart with
      | argument elementwise =>
        rw [produces] at elementwise
        cases elementwise
  -- a division inside an operand fails before this operation is tried
  | operation known first second ihFirst ihSecond =>
    have left := first.operand (succeed.part fun _ => .left) (ihFirst (succeed.part fun _ => .left))
    have right := second.operand (succeed.part fun _ => .right) (ihSecond (succeed.part fun _ => .right))
    unfold Expr.evalSeries
    refine (left.bind fun x hasLeft => right.bind fun y hasRight =>
      applySeries_gives known isSeries hasLeft hasRight).congr ?_
    exact dividesByZero_binary_iff isSeries
  | magnitude named argument ih =>
    have parts := succeed.argument named rfl List.mem_cons_self
    simp only [Expr.evalSeries, named]
    refine ((argument.operand parts (ih parts)).map fun x has =>
      ⟨_, rfl, has.map fun i => valueAt_magnitude named isSeries⟩).congr ?_
    rw [dividesByZero_call_iff named rfl]
    simp
  | choice named first second ihFirst ihSecond =>
    have partsFirst := succeed.argument named rfl List.mem_cons_self
    have partsSecond := succeed.argument named rfl (List.mem_cons_of_mem _ List.mem_cons_self)
    have left := first.operand partsFirst (ihFirst partsFirst)
    have right := second.operand partsSecond (ihSecond partsSecond)
    simp only [Expr.evalSeries, named]
    refine (left.bind fun x hasLeft => right.map fun y hasRight => ?_).congr ?_
    · rw [hasLeft.fits.checkAligned hasRight.fits, hasLeft.fits.zipWith_eq hasRight.fits]
      exact ⟨_, rfl, hasLeft.zipWith hasRight fun i => valueAt_choice named isSeries⟩
    · rw [dividesByZero_call_iff named rfl]
      simp

end Expr

theorem evalSeries_pointwise {context : Context α} (aligned : context.Aligned) {e : Expr α}
    (isSeries : e.isSeries context.hasSeries = true) (composed : e.Composed context)
    (succeed : e.PartsSucceed context) :
    ((∃ err, e.evalSeries context = .error err) ↔ e.DividesByZero context) ∧
    (∀ err, e.evalSeries context = .error err → err = .divisionByZero) ∧
    ∀ values, e.evalSeries context = .ok values →
      values.length = context.bars.length ∧ ∀ i < context.bars.length, values[i]? = e.valueAt context i := by
  rcases composed.evalSeries aligned succeed isSeries with ⟨divides, failed⟩ | ⟨never, values, given, has⟩
  · rw [failed]
    refine ⟨⟨fun _ => divides, fun _ => ⟨_, rfl⟩⟩, fun err same => ?_, nofun⟩
    cases same
    rfl
  · rw [given]
    refine ⟨⟨fun failed => ?_, fun divides => absurd divides never⟩, nofun, fun others same => ?_⟩
    · rcases failed with ⟨err, same⟩
      cases same
    · cases same
      exact has

namespace Sample

def spread : Context Float :=
  { bars := [⟨1.0, 3.0, 1.0, 2.0, 10.0⟩, ⟨2.0, 5.0, 0.0, 0.0, 20.0⟩]
    scalars := ⟨[("k", .number 2.0)]⟩
    series := ⟨[("x", [4.0, 1.0])]⟩ }

def quotient : Expr Float :=
  .binary (.call "max" [.name "x", .name "k"]) (.arithmetic .divide) (.call "close" [])

theorem spread_aligned : spread.Aligned := by
  intro name values bound
  simp only [spread, Bindings.get?, List.lookup_cons, List.lookup_nil] at bound
  split at bound
  · cases bound
    rfl
  · cases bound

theorem quotient_composed : quotient.Composed spread :=
  .operation nofun (.choice rfl (.series rfl) (.scalar rfl rfl)) (.leaf [] rfl)

theorem quotient_partsSucceed : quotient.PartsSucceed spread := by
  constructor
  · intro part isPart isScalar
    cases isPart with
    | self => cases isScalar
    | left isPart =>
      cases isPart with
      | self => cases isScalar
      | argument _ mem isPart =>
        simp only [List.mem_cons, List.not_mem_nil, or_false] at mem
        rcases mem with rfl | rfl
        · cases isPart
          cases isScalar
        · cases isPart
          exact ⟨.number 2.0, rfl⟩
    | right isPart =>
      cases isPart with
      | self => cases isScalar
      | argument elementwise => cases elementwise
  · intro function arguments isPart produces
    cases isPart with
    | left isPart =>
      cases isPart with
      | self => cases produces
      | argument _ mem isPart =>
        simp only [List.mem_cons, List.not_mem_nil, or_false] at mem
        rcases mem with rfl | rfl
        · cases isPart
        · cases isPart
    | right isPart =>
      cases isPart with
      | self => exact ⟨_, rfl⟩
      | argument elementwise => cases elementwise

theorem quotient_dividesByZero : quotient.DividesByZero spread := by
  refine ⟨_, _, .self, rfl, ?_⟩
  have isSeries : (Expr.call "close" [] : Expr Float).isSeries spread.hasSeries = true := rfl
  rw [Expr.IsZero, if_pos isSeries]
  exact ⟨1, 0.0, by decide, rfl, by decide +kernel⟩

end Sample

theorem evalSeries_pointwise_sample :
    Sample.spread.Aligned ∧ Sample.quotient.isSeries Sample.spread.hasSeries = true ∧
      Sample.quotient.Composed Sample.spread ∧ Sample.quotient.PartsSucceed Sample.spread ∧
      Sample.quotient.evalSeries Sample.spread = .error .divisionByZero := by
  have pointwise := evalSeries_pointwise Sample.spread_aligned rfl Sample.quotient_composed Sample.quotient_partsSucceed
  rcases pointwise.1.mpr Sample.quotient_dividesByZero with ⟨err, failed⟩
  rw [pointwise.2.1 err failed] at failed
  exact ⟨Sample.spread_aligned, rfl, Sample.quotient_composed, Sample.quotient_partsSucceed, failed⟩

end IndicatorScript
