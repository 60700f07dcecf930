import IndicatorScript.Expr.Eval
import IndicatorScript.Proofs.Expr.Operand
import IndicatorScript.Proofs.Gives
import IndicatorScript.Proofs.Indicator.Length

/-!
# Expressions in aligned contexts

In a context whose series have a value at each bar, so has every series that an expression yields
(`evalSeries_yields`). No operation then meets series of different lengths: `Expr.Raises` says what can go wrong.
-/

namespace IndicatorScript

variable {α : Type}

/-- Somewhere in the expression is this operator. -/
inductive Expr.Uses (op : Operator) : Expr α → Prop where
  | here {left right : Expr α} : Uses op (.binary left op right)
  | left {left right : Expr α} {other : Operator} (uses : Uses op left) : Uses op (.binary left other right)
  | right {left right : Expr α} {other : Operator} (uses : Uses op right) : Uses op (.binary left other right)
  | argument {function : String} {arguments : List (Expr α)} {e : Expr α} (mem : e ∈ arguments) (uses : Uses op e) :
      Uses op (.call function arguments)
  | position {series : String} {position : Expr α} (uses : Uses op position) : Uses op (.index series position)

def Context.Aligned (context : Context α) : Prop :=
  ∀ name values, context.series.get? name = some values → values.length = context.bars.length

def Context.HasInteger (context : Context α) (i : Int) : Prop :=
  ∃ name, context.scalars.get? name = some (.integer i) ∨ context.parameters.get? name = some (.integer i)

/-- Integers come from nowhere but the context. -/
def Value.KnownTo (context : Context α) (value : Value α) : Prop := ∀ i, value = .integer i → context.HasInteger i

theorem Value.knownTo_of_scalar? {context : Context α} {value : Value α} {name : String}
    (bound : context.scalar? name = some value) : value.KnownTo context := by
  rintro i rfl
  rcases Option.or_eq_some_iff.mp bound with isScalar | ⟨-, isParameter⟩
  · exact ⟨name, .inl isScalar⟩
  · exact ⟨name, .inr isParameter⟩

variable [Number α]

/-- What the evaluation of an expression can fail with, in an aligned context. -/
def Expr.Raises (context : Context α) (e : Expr α) : EvalError α → Prop
  | .unknownOperator symbol => e.Uses (.unknown symbol)
  | .integerTooLarge => ∃ i, context.HasInteger i ∧ Number.ofInt? (α := α) i = none
  | .notNumber value | .notText _ value | .notLength value => value.KnownTo context
  | .lengthsDiffer _ | .incomparableLengths | .tooManyStatements .. | .tooManyBars .. | .incomparableLimit _
  | .severalColumns | .columns _ => False
  | _ => True

variable {context : Context α} {β : Type} {p : β → Prop}

theorem Expr.Raises.ofPart {part whole : Expr α} {err : EvalError α} (raises : part.Raises context err)
    (uses : ∀ op, part.Uses op → whole.Uses op) : whole.Raises context err := by
  cases err with
  | unknownOperator symbol => exact uses _ raises
  | _ => exact raises

theorem Yields.ofPart {part whole : Expr α} {result : Except (EvalError α) β}
    (yields : Yields p (part.Raises context) result) (uses : ∀ op, part.Uses op → whole.Uses op) :
    Yields p (whole.Raises context) result :=
  yields.mono (fun _ => id) fun _ raises => raises.ofPart uses

/-! ## Values -/

namespace Value

theorem toNumber_yields {value : Value α} (known : value.KnownTo context) (e : Expr α) :
    Yields (fun _ => True) (e.Raises context) value.toNumber := by
  cases value with
  | integer i =>
    rw [toNumber]
    split
    · trivial
    · next tooLarge => exact ⟨i, known i rfl, tooLarge⟩
  | number | boolean => trivial
  | text | none => exact known

theorem toLength_yields {value : Value α} (known : value.KnownTo context) (e : Expr α) :
    Yields (fun _ => True) (e.Raises context) value.toLength := by
  refine (toNumber_yields known e).bind fun x _ => ?_
  split
  · split
    · trivial
    · exact known
  · exact known

end Value

namespace Expr

theorem input_yields (title : String) {default : Value α} (known : default.KnownTo context) (e : Expr α) :
    Yields (Value.KnownTo context) (e.Raises context) (input context title default) := by
  unfold input
  split
  · next value given =>
    rintro i rfl
    exact ⟨title, .inr given⟩
  · cases default with
    | none => trivial
    | _ => exact known

theorem inputTitle_yields (function : String) {value : Value α} (known : value.KnownTo context) (e : Expr α) :
    Yields (fun _ => True) (e.Raises context) (inputTitle function value) := by
  cases value with
  | text => trivial
  | _ => exact known

theorem positionIn_yields (series : String) (values : List α) (index : α) (e : Expr α) :
    Yields (fun _ => True) (e.Raises context) (positionIn series values index) := by
  unfold positionIn
  split
  · trivial
  split
  · trivial
  · split <;> trivial

theorem applyScalar_yields {x y : Value α} (known : x.KnownTo context) (known' : y.KnownTo context) (op : Operator)
    {e : Expr α} (uses : e.Uses op) : Yields (Value.KnownTo context) (e.Raises context) (op.applyScalar x y) := by
  cases op with
  | arithmetic op =>
    refine (Value.toNumber_yields known e).bind fun x _ => (Value.toNumber_yields known' e).bind fun y _ => ?_
    split
    · trivial
    · exact nofun
  | test op =>
    exact (Value.toNumber_yields known e).bind fun x _ => (Value.toNumber_yields known' e).bind fun y _ => nofun
  | unknown symbol => exact uses

theorem evalScalar_yields (context : Context α) (e : Expr α) :
    Yields (Value.KnownTo context) (e.Raises context) (e.evalScalar context) := by
  induction e using Expr.induction with
  | number | text | boolean => exact nofun
  | name n =>
    unfold evalScalar
    split
    · next bound => exact Value.knownTo_of_scalar? bound
    · trivial
  | call function arguments ih =>
    have each (a : Expr α) (mem : a ∈ arguments) :
        Yields (Value.KnownTo context) ((call function arguments).Raises context) (a.evalScalar context) :=
      (ih a mem).ofPart fun _ => .argument mem
    have absent : Value.none.KnownTo context := nofun
    unfold evalScalar
    split
    · trivial
    split
    · trivial
    split
    · exact (each _ (by simp)).bind fun x known => (Value.toNumber_yields known _).bind fun x _ => nofun
    · exact (each _ (by simp)).bind fun x known => (Value.toNumber_yields known _).bind fun x _ =>
        (each _ (by simp)).bind fun y known => (Value.toNumber_yields known _).bind fun y _ => nofun
    · exact (each _ (by simp)).bind fun title known => (inputTitle_yields function known _).bind fun title _ =>
        input_yields title absent _
    · exact (each _ (by simp)).bind fun title known => (inputTitle_yields function known _).bind fun title _ =>
        (each _ (by simp)).bind fun default known => input_yields title known _
    · trivial
  | binary left op right ihLeft ihRight =>
    unfold evalScalar
    exact (ihLeft.ofPart fun _ => .left).bind fun x known => (ihRight.ofPart fun _ => .right).bind fun y known' =>
      applyScalar_yields known known' op .here
  | index series position ih =>
    unfold evalScalar
    split
    · trivial
    · next values _ =>
      exact (ih.ofPart fun _ => .position).bind fun x known => (Value.toNumber_yields known _).bind fun index _ =>
        (positionIn_yields series values index _).map fun x _ => nofun

/-! ## Series -/

theorem evalConstant_yields (context : Context α) (e : Expr α) :
    Yields (fun values => values.length = context.bars.length) (e.Raises context) (e.evalConstant context) :=
  (evalScalar_yields context e).bind fun _ known => (Value.toNumber_yields known e).bind fun x _ =>
    length_broadcast context.bars.length x

theorem operandOf_yields {part : Expr α} {series : Unit → Except (EvalError α) (List α)} {whole : Expr α}
    (uses : ∀ op, part.Uses op → whole.Uses op)
    (yields : Yields (fun values => values.length = context.bars.length) (part.Raises context) (series ())) :
    Yields (Operand.Fits context.bars.length) (whole.Raises context) (operandOf context part series) := by
  unfold operandOf
  split
  · exact (yields.ofPart uses).bind fun values fits => fits
  · exact ((evalScalar_yields context part).ofPart uses).bind fun _ known =>
      (Value.toNumber_yields known whole).bind fun _ _ => trivial

theorem applySeries_yields {x y : Operand α} (fits : x.Fits context.bars.length) (fits' : y.Fits context.bars.length)
    (op : Operator) {e : Expr α} (uses : e.Uses op) :
    Yields (fun values => values.length = context.bars.length) (e.Raises context)
      (op.applySeries context.bars.length x y) := by
  cases op with
  | arithmetic op =>
    rw [op.applySeries_of_fits fits fits']
    split
    · trivial
    · exact fits.length_zipWith_values fits' op.apply
  | test op =>
    rw [op.applySeries_of_fits fits fits']
    exact fits.length_zipWith_values fits' op.applyAt
  | unknown symbol =>
    rw [Operator.applySeries_unknown symbol fits fits']
    exact uses

theorem evalSeries_yields {context : Context α} (aligned : context.Aligned) (e : Expr α) :
    Yields (fun values => values.length = context.bars.length) (e.Raises context) (e.evalSeries context) := by
  induction e using Expr.induction with
  | number | text | boolean | index => exact evalConstant_yields context _
  | name n =>
    unfold evalSeries
    split
    · next values bound => exact aligned n values bound
    · split
      · next value bound =>
        exact (Value.toNumber_yields (Value.knownTo_of_scalar? bound) _).bind fun x _ => length_broadcast _ x
      · trivial
  | call function arguments ih =>
    have each (a : Expr α) (mem : a ∈ arguments) : ∀ op, a.Uses op → (call function arguments).Uses op :=
      fun op => .argument mem
    have series (a : Expr α) (mem : a ∈ arguments) : Yields (fun values => values.length = context.bars.length)
        ((call function arguments).Raises context) (a.evalSeries context) :=
      (ih a mem).ofPart (each a mem)
    have scalar (a : Expr α) (mem : a ∈ arguments) :
        Yields (Value.KnownTo context) ((call function arguments).Raises context) (a.evalScalar context) :=
      (evalScalar_yields context a).ofPart (each a mem)
    have operand (a : Expr α) (mem : a ∈ arguments) : Yields (Operand.Fits context.bars.length)
        ((call function arguments).Raises context) (operandOf context a fun _ => a.evalSeries context) :=
      operandOf_yields (each a mem) (ih a mem)
    unfold evalSeries
    split
    · trivial
    split
    -- prices and their averages, one for each bar
    · exact List.length_map _
    · exact List.length_map _
    -- indicators, as long as the series that they are given
    · refine (series _ (by simp)).bind fun values fits => (scalar _ (by simp)).bind fun value known =>
        (Value.toLength_yields known _).bind fun length _ => ?_
      exact (length_apply_windowed _ _ _).trans fits
    · refine (series _ (by simp)).bind fun values fits => (scalar _ (by simp)).bind fun value known =>
        (Value.toLength_yields known _).bind fun fast _ => (scalar _ (by simp)).bind fun value known =>
        (Value.toLength_yields known _).bind fun slow _ => ?_
      exact (length_apply_convergence _ _ _ _ _).trans fits
    · refine (series _ (by simp)).bind fun values fits => (scalar _ (by simp)).bind fun value known =>
        (Value.toLength_yields known _).bind fun length _ => (scalar _ (by simp)).bind fun value known =>
        (Value.toNumber_yields known _).bind fun multiple _ => ?_
      exact (length_apply_band _ _ _ _).trans fits
    -- elementwise functions, of operands that fit
    · exact (operand _ (by simp)).bind fun x fits => fits.length_map Number.abs
    · refine (operand _ (by simp)).bind fun x fits => (operand _ (by simp)).bind fun y fits' => ?_
      rw [fits.checkAligned fits', fits.zipWith_eq fits']
      exact fits.length_zipWith_values fits' _
    · exact evalConstant_yields context _
    · trivial
  | binary left op right ihLeft ihRight =>
    unfold evalSeries
    exact (operandOf_yields (fun _ => .left) ihLeft).bind fun x fits =>
      (operandOf_yields (fun _ => .right) ihRight).bind fun y fits' => applySeries_yields fits fits' op .here

theorem evalDeclared_yields {context : Context α} (aligned : context.Aligned) (e : Expr α) :
    Yields (fun values => values.length = context.bars.length) (e.Raises context) (e.evalDeclared context) := by
  unfold evalDeclared
  split
  · exact evalSeries_yields aligned e
  · exact evalConstant_yields context e

end Expr

end IndicatorScript
