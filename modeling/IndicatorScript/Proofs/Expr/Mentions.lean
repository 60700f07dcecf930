import IndicatorScript.Proofs.Expr.Parameters

/-!
# What an expression reads of the declarations

The declarations come into the kind, the value and the failure of an expression only through the names that it mentions,
as variables or as indexed series. So it evaluates to the same in contexts in which these names stand for the same
(`evalScalar_congr`, `evalSeries_congr`).
-/

namespace IndicatorScript

variable {α : Type}

/-- Contexts of the same bars and parameters, in which these names stand for the same. -/
structure Context.SameOn (names : String → Prop) (context other : Context α) : Prop where
  bars : other.bars = context.bars
  parameters : other.parameters = context.parameters
  scalars : ∀ n, names n → other.scalars.get? n = context.scalars.get? n
  series : ∀ n, names n → other.series.get? n = context.series.get? n

namespace Expr

/-- The names that stand in an expression for a variable or for an indexed series. -/
def Mentions (e : Expr α) (n : String) : Prop :=
  (name n).OccursIn e ∨ ∃ position, (index n position).OccursIn e

theorem Mentions.trans {part e : Expr α} {n : String} (mentions : part.Mentions n) (occurs : part.OccursIn e) :
    e.Mentions n := by
  rcases mentions with stands | ⟨position, stands⟩
  · exact .inl (stands.trans occurs)
  · exact .inr ⟨position, stands.trans occurs⟩

end Expr

namespace Context.SameOn

variable {names : String → Prop} {context other : Context α}

theorem mono (same : context.SameOn names other) {fewer : String → Prop} (given : ∀ n, fewer n → names n) :
    context.SameOn fewer other :=
  ⟨same.bars, same.parameters, fun n mem => same.scalars n (given n mem), fun n mem => same.series n (given n mem)⟩

theorem part {part e : Expr α} (same : context.SameOn e.Mentions other) (occurs : part.OccursIn e) :
    context.SameOn part.Mentions other :=
  same.mono fun _ mentions => mentions.trans occurs

theorem scalar? (same : context.SameOn names other) {n : String} (mem : names n) :
    other.scalar? n = context.scalar? n := by
  rw [Context.scalar?, same.scalars n mem, same.parameters, Context.scalar?]

theorem hasSeries (same : context.SameOn names other) {n : String} (mem : names n) :
    other.hasSeries n = context.hasSeries n := by
  rw [Context.hasSeries, Bindings.contains, same.series n mem, Context.hasSeries, Bindings.contains]

end Context.SameOn

namespace Expr

variable {context other : Context α} {e : Expr α}

theorem anySeries_congr {declared declared' : String → Bool} {arguments : List (Expr α)}
    (each : ∀ a ∈ arguments, a.isSeries declared' = a.isSeries declared) :
    anySeries declared' arguments = anySeries declared arguments := by
  induction arguments with
  | nil => rfl
  | cons a rest ih =>
    rw [anySeries, each a List.mem_cons_self, ih fun b mem => each b (List.mem_cons_of_mem a mem), anySeries]

theorem isSeries_congr (same : context.SameOn e.Mentions other) :
    e.isSeries other.hasSeries = e.isSeries context.hasSeries := by
  induction e using Expr.induction with
  | number | text | boolean | index => rfl
  | name n => exact same.hasSeries (.inl .self)
  | call function arguments ih =>
    have each : ∀ a ∈ arguments, a.isSeries other.hasSeries = a.isSeries context.hasSeries :=
      fun a mem => ih a mem (same.part (.argument mem .self))
    rw [isSeries, isSeries, anySeries_congr each]
  | binary left op right ihLeft ihRight =>
    rw [isSeries, ihLeft (same.part (.left .self)), ihRight (same.part (.right .self)), isSeries]

theorem input_congr (same : other.parameters = context.parameters) : input other = input context := by
  funext title default
  unfold input
  rw [same]

variable [Number α]

theorem evalScalar_congr (same : context.SameOn e.Mentions other) : e.evalScalar other = e.evalScalar context := by
  induction e using Expr.induction with
  | number | text | boolean => rfl
  | name n =>
    unfold evalScalar
    rw [same.scalar? (.inl .self)]
  | call function arguments ih =>
    have argument {a : Expr α} (mem : a ∈ arguments) : a.evalScalar other = a.evalScalar context :=
      ih a mem (same.part (.argument mem .self))
    unfold evalScalar
    split
    · rfl
    split
    · rfl
    split
    · rw [argument (by simp)]
    · rw [argument (by simp), argument (by simp)]
    · rw [argument (by simp), input_congr same.parameters]
    · rw [argument (by simp), argument (by simp), input_congr same.parameters]
    · rfl
  | binary left op right ihLeft ihRight =>
    unfold evalScalar
    rw [ihLeft (same.part (.left .self)), ihRight (same.part (.right .self))]
  | index series position ih =>
    unfold evalScalar
    rw [ih (same.part (.position .self)), same.series series (.inr ⟨position, .self⟩)]

theorem evalConstant_congr (same : context.SameOn e.Mentions other) :
    e.evalConstant other = e.evalConstant context := by
  unfold evalConstant
  rw [evalScalar_congr same, same.bars]

theorem operandOf_congr (same : context.SameOn e.Mentions other)
    (series : e.evalSeries other = e.evalSeries context) :
    operandOf other e (fun _ => e.evalSeries other) = operandOf context e fun _ => e.evalSeries context := by
  unfold operandOf
  rw [isSeries_congr same, series, evalScalar_congr same]

theorem evalSeries_congr (same : context.SameOn e.Mentions other) : e.evalSeries other = e.evalSeries context := by
  induction e using Expr.induction with
  | number | text | boolean | index =>
    unfold evalSeries
    exact evalConstant_congr same
  | name n =>
    unfold evalSeries
    rw [same.series n (.inl .self), same.scalar? (.inl .self), same.bars]
  | call function arguments ih =>
    have part {a : Expr α} (mem : a ∈ arguments) : context.SameOn a.Mentions other :=
      same.part (.argument mem .self)
    have series {a : Expr α} (mem : a ∈ arguments) : a.evalSeries other = a.evalSeries context := ih a mem (part mem)
    have scalar {a : Expr α} (mem : a ∈ arguments) := evalScalar_congr (part mem)
    have operand {a : Expr α} (mem : a ∈ arguments) := operandOf_congr (part mem) (series mem)
    unfold evalSeries
    split
    · rfl
    split
    -- prices and their averages
    · rw [same.bars]
    · rw [same.bars]
    -- indicators
    · rw [series (by simp), scalar (by simp)]
    · rw [series (by simp), scalar (by simp), scalar (by simp)]
    · rw [series (by simp), scalar (by simp), scalar (by simp)]
    -- elementwise functions
    · rw [operand (by simp), same.bars]
    · rw [operand (by simp), operand (by simp), same.bars]
    · exact evalConstant_congr same
    · rfl
  | binary left op right ihLeft ihRight =>
    have first := same.part (.left .self)
    have second := same.part (.right .self)
    unfold evalSeries
    rw [operandOf_congr first (ihLeft first), operandOf_congr second (ihRight second), same.bars]

theorem evalDeclared_congr (same : context.SameOn e.Mentions other) :
    e.evalDeclared other = e.evalDeclared context := by
  unfold evalDeclared
  rw [isSeries_congr same, evalSeries_congr same, evalConstant_congr same]

end Expr

end IndicatorScript
