import IndicatorScript.Proofs.Expr.Alignment

/-!
# Expressions that only division can fail

Prices, indicators of lengths that are known, and arithmetic over names that stand for numbers and series. Such an
expression means a number or a series, and it is evaluated to that unless one of the operands that it divides by is zero
(`Means.evaluates`).
-/

namespace IndicatorScript

variable {α : Type}

/-- What a declared name stands for. -/
inductive Meaning (α : Type) where
  | number (x : α)
  | length (n : Nat)
  | series (values : List α)

def Operand.isSeries : Operand α → Bool
  | .scalar _ => false
  | .series _ => true

def Arithmetic.divisors (op : Arithmetic) (y : Operand α) : List (Operand α) :=
  match op with
  | .divide => [y]
  | _ => []

variable [Number α]

/-- A result that is a division by zero if one of the divisors is zero. -/
def unlessZero {β : Type} (divisors : List (Operand α)) (x : β) : Except (EvalError α) β :=
  if divisors.any Operand.hasZero then .error .divisionByZero else .ok x

section UnlessZero

variable {β γ : Type} {first second : List (Operand α)} {x : β}

theorem unlessZero_bind {next : β → Except (EvalError α) γ} {y : γ} (same : next x = unlessZero second y) :
    (unlessZero first x >>= next) = unlessZero (first ++ second) y := by
  unfold unlessZero at same ⊢
  rw [List.any_append]
  by_cases zero : first.any Operand.hasZero = true
  · simp only [zero, Bool.true_or, if_true]
    rfl
  · simp only [Bool.not_eq_true] at zero
    simp only [zero, Bool.false_or]
    exact same

theorem unlessZero_map {next : β → Except (EvalError α) γ} {y : γ} (same : next x = .ok y) :
    (unlessZero first x >>= next) = unlessZero first y := by
  have none : next x = unlessZero [] y := same
  rw [unlessZero_bind none, List.append_nil]

end UnlessZero

def Meaning.IsOf (context : Context α) (name : String) : Meaning α → Prop
  | .number x => context.hasSeries name = false ∧
      ∃ value, context.scalar? name = some value ∧ value.toNumber = .ok x
  | .length n => context.hasSeries name = false ∧
      ∃ value, context.scalar? name = some value ∧ value.toLength = .ok n
  | .series values => context.series.get? name = some values ∧ values.length = context.bars.length

def Context.Knows (context : Context α) (meanings : Bindings (Meaning α)) : Prop :=
  ∀ name meaning, meanings.get? name = some meaning → meaning.IsOf context name

namespace Expr

variable (bars : List (Bar α)) (meanings : Bindings (Meaning α))

inductive MeansLength : Expr α → Nat → Prop where
  | number {x : α} {n : Nat} (isLength : (Value.number x).toLength = .ok n) : MeansLength (.number x) n
  | name {name : String} {n : Nat} (bound : meanings.get? name = some (.length n)) : MeansLength (.name name) n

/-- What an expression means, and what it divides by. -/
inductive Means : Expr α → Operand α → List (Operand α) → Prop where
  | number (x : α) : Means (.number x) (.scalar x) []
  | scalar {name : String} {x : α} (bound : meanings.get? name = some (.number x)) : Means (.name name) (.scalar x) []
  | series {name : String} {values : List α} (bound : meanings.get? name = some (.series values)) :
      Means (.name name) (.series values) []
  | price {function : String} {column : Price} (named : Builtin.ofName? function = some (.price column)) :
      Means (.call function []) (.series (bars.map (·.price column))) []
  | composite {function : String} {average : Composite}
      (named : Builtin.ofName? function = some (.composite average)) :
      Means (.call function []) (.series (bars.map (·.composite average))) []
  | windowed {function : String} {indicator : Windowed} {x n : Expr α} {values : List α} {length : Nat}
      {divisors : List (Operand α)} (named : Builtin.ofName? function = some (.windowed indicator))
      (source : Means x (.series values) divisors) (isLength : MeansLength meanings n length) :
      Means (.call function [x, n]) (.series (indicator.apply length values)) divisors
  | convergence {function : String} {part : Convergence} {x f s : Expr α} {values : List α} {fast slow : Nat}
      {divisors : List (Operand α)} (named : Builtin.ofName? function = some (.convergence part))
      (source : Means x (.series values) divisors) (isFast : MeansLength meanings f fast)
      (isSlow : MeansLength meanings s slow) :
      Means (.call function [x, f, s]) (.series (part.apply fast slow Indicator.signalLength values)) divisors
  | magnitude {function : String} {x : Expr α} {values : List α} {divisors : List (Operand α)}
      (named : Builtin.ofName? function = some .magnitude) (source : Means x (.series values) divisors) :
      Means (.call function [x]) (.series (values.map Number.abs)) divisors
  | choice {function : String} {which : Choice} {x y : Expr α} {xs ys : List α} {divisors others : List (Operand α)}
      (named : Builtin.ofName? function = some (.choice which)) (first : Means x (.series xs) divisors)
      (second : Means y (.series ys) others) :
      Means (.call function [x, y]) (.series (List.zipWith which.apply xs ys)) (divisors ++ others)
  | numbers {op : Arithmetic} {left right : Expr α} {x y : α} (other : op ≠ .divide)
      (first : Means left (.scalar x) []) (second : Means right (.scalar y) []) :
      Means (.binary left (.arithmetic op) right) (.scalar (op.apply x y)) []
  | operation {op : Arithmetic} {left right : Expr α} {x y : Operand α} {divisors others : List (Operand α)}
      (first : Means left x divisors) (second : Means right y others) (isSeries : (x.isSeries || y.isSeries) = true) :
      Means (.binary left (.arithmetic op) right) (.series (x.zipWith bars.length op.apply y))
        (divisors ++ (others ++ op.divisors y))

/-- The evaluator finds an operand unless it divides by zero on the way, which a number does not. -/
def Evaluates (context : Context α) (e : Expr α) : Operand α → List (Operand α) → Prop
  | .scalar x, divisors => e.isSeries context.hasSeries = false ∧ divisors = [] ∧
      ∃ value, e.evalScalar context = .ok value ∧ value.toNumber = .ok x
  | .series values, divisors => e.isSeries context.hasSeries = true ∧ values.length = context.bars.length ∧
      e.evalSeries context = unlessZero divisors values

section Evaluates

variable {bars meanings} {context : Context α} {e : Expr α} {x : Operand α} {divisors : List (Operand α)}

theorem Evaluates.kind (evaluates : e.Evaluates context x divisors) :
    e.isSeries context.hasSeries = x.isSeries := by
  cases x with
  | scalar x => exact evaluates.1
  | series values => exact evaluates.1

theorem Evaluates.fits (evaluates : e.Evaluates context x divisors) : x.Fits context.bars.length := by
  cases x with
  | scalar x => trivial
  | series values => exact evaluates.2.1

theorem Evaluates.operandOf_eq (evaluates : e.Evaluates context x divisors) :
    (operandOf context e fun _ => e.evalSeries context) = unlessZero divisors x := by
  unfold operandOf
  rw [evaluates.kind]
  cases x with
  | scalar x =>
    rcases evaluates with ⟨-, rfl, value, evaluated, isNumber⟩
    rw [if_neg (by simp [Operand.isSeries]), evaluated]
    dsimp only [bind, Except.bind]
    rw [isNumber]
    rfl
  | series values =>
    rw [if_pos (show (Operand.series values).isSeries = true from rfl), evaluates.2.2]
    exact unlessZero_map rfl

theorem MeansLength.evaluates {n : Nat} (knows : context.Knows meanings) (means : MeansLength meanings e n) :
    ∃ value, e.evalScalar context = .ok value ∧ value.toLength = .ok n := by
  cases means with
  | number isLength => exact ⟨_, by rw [evalScalar], isLength⟩
  | name bound =>
    rcases knows _ _ bound with ⟨-, value, isScalar, isLength⟩
    refine ⟨value, ?_, isLength⟩
    rw [evalScalar, isScalar]

theorem applySeries_of_evaluates {y : Operand α} (op : Arithmetic) (fits : x.Fits context.bars.length)
    (fits' : y.Fits context.bars.length) :
    (Operator.arithmetic op).applySeries context.bars.length x y =
      unlessZero (op.divisors y) (x.zipWith context.bars.length op.apply y) := by
  rw [op.applySeries_of_fits fits fits', fits.zipWith_eq fits']
  cases op <;> simp [unlessZero, Arithmetic.divisors]

theorem Means.evaluates (knows : context.Knows meanings) (means : Means context.bars meanings e x divisors) :
    e.Evaluates context x divisors := by
  induction means with
  | number x => exact ⟨rfl, rfl, .number x, by rw [evalScalar], rfl⟩
  | scalar bound =>
    rcases knows _ _ bound with ⟨isScalar, value, given, isNumber⟩
    exact ⟨isScalar, rfl, value, by rw [evalScalar, given], isNumber⟩
  | series bound =>
    rcases knows _ _ bound with ⟨given, length⟩
    refine ⟨?_, length, by rw [Expr.evalSeries, given]; rfl⟩
    rw [isSeries, Context.hasSeries, Bindings.contains, given]
    rfl
  | price named =>
    refine ⟨by simp [isSeries, named, Builtin.signature], List.length_map _, ?_⟩
    simp only [evalSeries, named]
    rfl
  | composite named =>
    refine ⟨by simp [isSeries, named, Builtin.signature], List.length_map _, ?_⟩
    simp only [evalSeries, named]
    rfl
  | windowed named source isLength ih =>
    rcases isLength.evaluates knows with ⟨value, evaluated, isLength⟩
    refine ⟨by simp [isSeries, named, Builtin.signature], (length_apply_windowed _ _ _).trans ih.2.1, ?_⟩
    simp only [evalSeries, named, ih.2.2]
    refine unlessZero_map ?_
    rw [evaluated]
    dsimp only [bind, Except.bind]
    rw [isLength]
  | convergence named source isFast isSlow ih =>
    rcases isFast.evaluates knows with ⟨value, evaluated, isFast⟩
    rcases isSlow.evaluates knows with ⟨value', evaluated', isSlow⟩
    refine ⟨by simp [isSeries, named, Builtin.signature], (length_apply_convergence _ _ _ _ _).trans ih.2.1, ?_⟩
    simp only [evalSeries, named, ih.2.2]
    refine unlessZero_map ?_
    rw [evaluated, evaluated']
    dsimp only [bind, Except.bind]
    rw [isFast, isSlow]
  | magnitude named source ih =>
    refine ⟨by simp [isSeries, named, Builtin.signature, anySeries, ih.1], (List.length_map _).trans ih.2.1, ?_⟩
    simp only [evalSeries, named, ih.operandOf_eq]
    exact unlessZero_map rfl
  | choice named first second ih ih' =>
    refine ⟨by simp [isSeries, named, Builtin.signature, anySeries, ih.1], ?_, ?_⟩
    · rw [List.length_zipWith, ih.2.1, ih'.2.1, Nat.min_self]
    · simp only [evalSeries, named, ih.operandOf_eq, ih'.operandOf_eq]
      refine unlessZero_bind (unlessZero_map ?_)
      rw [ih.fits.checkAligned ih'.fits]
      rfl
  | numbers other first second ih ih' =>
    rcases ih with ⟨isScalar, -, value, evaluated, isNumber⟩
    rcases ih' with ⟨isScalar', -, value', evaluated', isNumber'⟩
    refine ⟨by rw [isSeries, isScalar, isScalar']; rfl, rfl, .number _, ?_, rfl⟩
    rw [evalScalar, evaluated, evaluated']
    dsimp only [bind, Except.bind]
    rw [Operator.applyScalar, isNumber, isNumber']
    dsimp only [bind, Except.bind]
    rw [if_neg fun divides => other divides.1]
  | operation first second isSeries ih ih' =>
    refine ⟨?_, ?_, ?_⟩
    · rw [Expr.isSeries, ih.kind, ih'.kind, isSeries]
    · rw [ih.fits.zipWith_eq ih'.fits, ih.fits.length_zipWith_values ih'.fits]
    · rw [evalSeries, ih.operandOf_eq, ih'.operandOf_eq]
      exact unlessZero_bind (unlessZero_bind (applySeries_of_evaluates _ ih.fits ih'.fits))

end Evaluates

end Expr

end IndicatorScript
