import IndicatorScript.Proofs.Expr.Pointwise
import IndicatorScript.Proofs.Expr.Strictness

/-!
# What an expression reads of the parameters

The parameters come into the value of an expression only through the titles of its inputs and through names that no
scalar is declared for. A declared series hides a parameter where a series is wanted, but not where a scalar is: there
the series is not looked at (`NeedsScalar`).
-/

namespace IndicatorScript

variable {α : Type}

def Context.withParameters (context : Context α) (parameters : Bindings (Value α)) : Context α :=
  { context with parameters }

namespace Expr

theorem OccursIn.trans {part e whole : Expr α} (first : part.OccursIn e) (second : e.OccursIn whole) :
    part.OccursIn whole := by
  induction second with
  | self => exact first
  | left _ ih => exact .left ih
  | right _ ih => exact .right ih
  | argument mem _ ih => exact .argument mem ih
  | position _ ih => exact .position ih

/-- The function evaluates the argument with that number to a single value. -/
def TakesScalar (function : String) (i : Nat) : Prop :=
  ∃ builtin parameter, Builtin.ofName? function = some builtin ∧ builtin.signature.produces ≠ .elementwise ∧
    builtin.signature.parameters[i]? = some parameter ∧ parameter ≠ .series

theorem TakesScalar.of_series {function : String} {builtin : Builtin} {parameter : Parameter} {i : Nat}
    (named : Builtin.ofName? function = some builtin) (produces : builtin.signature.produces = .series)
    (given : builtin.signature.parameters[i]? = some parameter) (other : parameter ≠ .series) :
    TakesScalar function i :=
  ⟨builtin, parameter, named, by simp [produces], given, other⟩

/-- The name stands where a scalar is wanted: in the position of an index, or in a length, number, title or default. -/
inductive NeedsScalar (n : String) : Expr α → Prop where
  | left {left right : Expr α} {op : Operator} (needs : NeedsScalar n left) : NeedsScalar n (.binary left op right)
  | right {left right : Expr α} {op : Operator} (needs : NeedsScalar n right) : NeedsScalar n (.binary left op right)
  | within {function : String} {arguments : List (Expr α)} {e : Expr α} (mem : e ∈ arguments)
      (needs : NeedsScalar n e) : NeedsScalar n (.call function arguments)
  | argument {function : String} {arguments : List (Expr α)} {i : Nat} {e : Expr α} (given : arguments[i]? = some e)
      (takes : TakesScalar function i) (occurs : (name n).OccursIn e) : NeedsScalar n (.call function arguments)
  | position {series : String} {position : Expr α} (occurs : (name n).OccursIn position) :
      NeedsScalar n (.index series position)

theorem NeedsScalar.occursIn {n : String} {e : Expr α} (needs : e.NeedsScalar n) : (name n).OccursIn e := by
  induction needs with
  | left _ ih => exact .left ih
  | right _ ih => exact .right ih
  | within mem _ ih => exact .argument mem ih
  | argument given _ occurs => exact .argument (List.mem_of_getElem? given) occurs
  | position occurs => exact .position occurs

/-- The expression is the title of an input in the other one. -/
def IsTitle (title e : Expr α) : Prop :=
  ∃ function rest, Builtin.ofName? function = some .input ∧ (call function (title :: rest)).OccursIn e

variable (context : Context α) (other : Bindings (Value α))

/-- What makes two sets of parameters the same to an expression. -/
structure ReadsAgree (e : Expr α) : Prop where
  names : ∀ n, (name n).OccursIn e → (context.withParameters other).scalar? n = context.scalar? n ∨
    context.hasSeries n = true ∧ ¬ e.NeedsScalar n
  titles : ∀ title : Expr α, title.IsTitle e →
    ∃ text, title = .text text ∧ other.get? text = context.parameters.get? text

variable {context other}

namespace ReadsAgree

variable {part e : Expr α}

theorem of_occursIn (agree : e.ReadsAgree context other) (occurs : part.OccursIn e)
    (needs : ∀ n, part.NeedsScalar n → e.NeedsScalar n) : part.ReadsAgree context other := by
  refine ⟨fun n stands => ?_, fun title ⟨function, rest, named, stands⟩ => ?_⟩
  · exact (agree.names n (stands.trans occurs)).imp_right fun ⟨declared, free⟩ => ⟨declared, free ∘ needs n⟩
  · exact agree.titles title ⟨function, rest, named, stands.trans occurs⟩

theorem left {left right : Expr α} {op : Operator} (agree : (binary left op right).ReadsAgree context other) :
    left.ReadsAgree context other :=
  agree.of_occursIn (.left .self) fun _ => .left

theorem right {left right : Expr α} {op : Operator} (agree : (binary left op right).ReadsAgree context other) :
    right.ReadsAgree context other :=
  agree.of_occursIn (.right .self) fun _ => .right

theorem argument {function : String} {arguments : List (Expr α)}
    (agree : (call function arguments).ReadsAgree context other) (mem : e ∈ arguments) :
    e.ReadsAgree context other :=
  agree.of_occursIn (.argument mem .self) fun _ => .within mem

theorem position {series : String} (agree : (index series e).ReadsAgree context other) :
    e.ReadsAgree context other :=
  agree.of_occursIn (.position .self) fun _ needs => .position needs.occursIn

end ReadsAgree

/-- The names in the expression stand for the same scalars under either set of parameters. -/
def ScalarsAgree (context : Context α) (other : Bindings (Value α)) (e : Expr α) : Prop :=
  ∀ n, (name n).OccursIn e → (context.withParameters other).scalar? n = context.scalar? n

theorem ReadsAgree.scalars {part e : Expr α} (agree : e.ReadsAgree context other) (occurs : part.OccursIn e)
    (needs : ∀ n, (name n).OccursIn part → e.NeedsScalar n) : part.ScalarsAgree context other :=
  fun n stands => (agree.names n (stands.trans occurs)).resolve_right fun ⟨_, free⟩ => free (needs n stands)

theorem ReadsAgree.title {function : String} {title : Expr α} {rest : List (Expr α)}
    (agree : (call function (title :: rest)).ReadsAgree context other)
    (named : Builtin.ofName? function = some .input) :
    ∃ text, title = .text text ∧ other.get? text = context.parameters.get? text :=
  agree.titles title ⟨function, rest, named, .self⟩

theorem ReadsAgree.scalarArgument {function : String} {arguments : List (Expr α)} {i : Nat} {e : Expr α}
    (agree : (call function arguments).ReadsAgree context other) (given : arguments[i]? = some e)
    (takes : TakesScalar function i) : e.ScalarsAgree context other :=
  agree.scalars (.argument (List.mem_of_getElem? given) .self) fun _ => .argument given takes

theorem input_withParameters {title : String} (same : other.get? title = context.parameters.get? title)
    (default : Value α) : input (context.withParameters other) title default = input context title default := by
  unfold input Context.withParameters
  rw [same]

variable [Number α]

-- The induction goes through scalar expressions, in which a declared series can only stand where a scalar is wanted.
-- An argument that has to be a scalar may be a series, so what it reads has to agree altogether.
theorem evalScalar_withParameters {e : Expr α} (agree : e.ReadsAgree context other)
    (scalars : e.isSeries context.hasSeries = true → e.ScalarsAgree context other) :
    e.evalScalar (context.withParameters other) = e.evalScalar context := by
  induction e using Expr.induction with
  | number | text | boolean => rfl
  | name n =>
    have same : (context.withParameters other).scalar? n = context.scalar? n := by
      rcases agree.names n .self with same | ⟨declared, -⟩
      · exact same
      · exact scalars declared n .self
    unfold evalScalar
    rw [same]
  | call function arguments ih =>
    unfold evalScalar
    split
    · rfl
    next builtin named =>
    have operand (elementwise : builtin.signature.produces = .elementwise) {e : Expr α} (mem : e ∈ arguments) :
        e.evalScalar (context.withParameters other) = e.evalScalar context := by
      have isPart : HasPart e (call function arguments) :=
        .argument (by rw [Builtin.produces?, named, Option.map_some, elementwise]) mem .self
      exact ih e mem (agree.argument mem) fun series n stands =>
        scalars (isPart.isSeries series) n (.argument mem stands)
    split
    · rfl
    split
    · rw [operand rfl (by simp)]
    · rw [operand rfl (by simp), operand rfl (by simp)]
    · next title _ =>
      rcases agree.title named with ⟨text, rfl, same⟩
      exact input_withParameters same .none
    · next title default _ =>
      rcases agree.title named with ⟨text, rfl, same⟩
      have takes : TakesScalar function 1 := ⟨_, .any, named, by decide, rfl, by decide⟩
      rw [ih default (by simp) (agree.argument (by simp)) fun _ => agree.scalarArgument rfl takes]
      cases default.evalScalar context with
      | error => rfl
      | ok value => exact input_withParameters same value
    · rfl
  | binary left op right ihLeft ihRight =>
    unfold evalScalar
    rw [ihLeft agree.left fun series n stands => scalars (by simp [isSeries, series]) n (.left stands),
      ihRight agree.right fun series n stands => scalars (by simp [isSeries, series]) n (.right stands)]
  | index series position ih =>
    unfold evalScalar
    rw [ih agree.position fun _ => agree.scalars (.position .self) fun _ => .position]
    rfl

variable {e : Expr α}

theorem evalConstant_withParameters (agree : e.ReadsAgree context other)
    (scalar : e.isSeries context.hasSeries = false) :
    e.evalConstant (context.withParameters other) = e.evalConstant context := by
  unfold evalConstant
  rw [evalScalar_withParameters agree (by simp [scalar])]
  rfl

theorem operandOf_withParameters (agree : e.ReadsAgree context other)
    (same : e.evalSeries (context.withParameters other) = e.evalSeries context) :
    operandOf (context.withParameters other) e (fun _ => e.evalSeries (context.withParameters other)) =
      operandOf context e fun _ => e.evalSeries context := by
  unfold operandOf
  rw [same]
  split
  · next isSeries => rw [if_pos (by exact isSeries)]
  · next isScalar =>
    rw [if_neg (by exact isScalar), evalScalar_withParameters agree fun series => absurd series isScalar]

theorem evalSeries_withParameters (agree : e.ReadsAgree context other) :
    e.evalSeries (context.withParameters other) = e.evalSeries context := by
  induction e using Expr.induction with
  | number | text | boolean | index =>
    unfold evalSeries
    exact evalConstant_withParameters agree rfl
  | name n =>
    rcases agree.names n .self with same | ⟨declared, -⟩
    · unfold evalSeries
      rw [same]
      rfl
    · rcases Option.isSome_iff_exists.mp declared with ⟨values, bound⟩
      have bound' : (context.withParameters other).series.get? n = some values := bound
      unfold evalSeries
      rw [bound, bound']
  | call function arguments ih =>
    have scalar {e : Expr α} (i : Nat) (given : arguments[i]? = some e) (takes : TakesScalar function i) :
        e.evalScalar (context.withParameters other) = e.evalScalar context :=
      evalScalar_withParameters (agree.argument (List.mem_of_getElem? given)) fun _ => agree.scalarArgument given takes
    have series {e : Expr α} (mem : e ∈ arguments) :
        e.evalSeries (context.withParameters other) = e.evalSeries context :=
      ih e mem (agree.argument mem)
    have operand {e : Expr α} (mem : e ∈ arguments) := operandOf_withParameters (agree.argument mem) (series mem)
    unfold evalSeries
    split
    · rfl
    next builtin named =>
    split
    -- prices and their averages, which take nothing
    · rfl
    · rfl
    -- indicators
    · rw [series (by simp), scalar 1 rfl (.of_series named rfl rfl (by decide))]
    · rw [series (by simp), scalar 1 rfl (.of_series named rfl rfl (by decide)),
        scalar 2 rfl (.of_series named rfl rfl (by decide))]
    · rw [series (by simp), scalar 1 rfl (.of_series named rfl rfl (by decide)),
        scalar 2 rfl (.of_series named rfl rfl (by decide))]
    -- elementwise functions
    · rw [operand (by simp)]
      rfl
    · rw [operand (by simp), operand (by simp)]
      rfl
    · exact evalConstant_withParameters agree (by simp [isSeries, named, Builtin.signature])
    · rfl
  | binary left op right ihLeft ihRight =>
    unfold evalSeries
    rw [operandOf_withParameters agree.left (ihLeft agree.left),
      operandOf_withParameters agree.right (ihRight agree.right)]
    rfl

theorem evalDeclared_withParameters (agree : e.ReadsAgree context other) :
    e.evalDeclared (context.withParameters other) = e.evalDeclared context := by
  unfold evalDeclared
  split
  · next isSeries => rw [if_pos (by exact isSeries), evalSeries_withParameters agree]
  · next isScalar => rw [if_neg (by exact isScalar), evalConstant_withParameters agree (Bool.eq_false_iff.mpr isScalar)]

end Expr

end IndicatorScript
