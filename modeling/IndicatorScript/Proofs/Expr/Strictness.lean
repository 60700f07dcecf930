import IndicatorScript.Expr.Eval
import IndicatorScript.Proofs.Gives

/-!
# Evaluation is strict

An expression that has a value was evaluated in full: every name in it stands for something, every call is one that a
built-in function takes, and every position is one in a declared series (`evalScalar_resolves`, `evalSeries_resolves`).
Nothing is left out because the value does not depend on it.
-/

namespace IndicatorScript

variable {α : Type}

namespace Expr

/-- The expression is the other one or stands somewhere in it, at any depth. -/
inductive OccursIn (part : Expr α) : Expr α → Prop where
  | self : OccursIn part part
  | left {left right : Expr α} {op : Operator} (occurs : OccursIn part left) : OccursIn part (.binary left op right)
  | right {left right : Expr α} {op : Operator} (occurs : OccursIn part right) : OccursIn part (.binary left op right)
  | argument {function : String} {arguments : List (Expr α)} {e : Expr α} (mem : e ∈ arguments)
      (occurs : OccursIn part e) : OccursIn part (.call function arguments)
  | position {series : String} {position : Expr α} (occurs : OccursIn part position) :
      OccursIn part (.index series position)

section Simp

variable {part e left right position : Expr α} {n function series s : String} {x : α} {op : Operator}
  {arguments : List (Expr α)}

@[simp] theorem occursIn_number : part.OccursIn (number x) ↔ part = number x := by
  constructor
  · intro occurs
    cases occurs with
    | self => rfl
  · rintro rfl
    exact .self

@[simp] theorem occursIn_text : part.OccursIn (text s) ↔ part = text s := by
  constructor
  · intro occurs
    cases occurs with
    | self => rfl
  · rintro rfl
    exact .self

@[simp] theorem occursIn_name : part.OccursIn (name n) ↔ part = name n := by
  constructor
  · intro occurs
    cases occurs with
    | self => rfl
  · rintro rfl
    exact .self

@[simp] theorem occursIn_call :
    part.OccursIn (call function arguments) ↔ part = call function arguments ∨ ∃ e ∈ arguments, part.OccursIn e := by
  constructor
  · intro occurs
    cases occurs with
    | self => exact .inl rfl
    | argument mem occurs => exact .inr ⟨_, mem, occurs⟩
  · rintro (rfl | ⟨e, mem, occurs⟩)
    · exact .self
    · exact .argument mem occurs

@[simp] theorem occursIn_binary :
    part.OccursIn (binary left op right) ↔ part = binary left op right ∨ part.OccursIn left ∨ part.OccursIn right := by
  constructor
  · intro occurs
    cases occurs with
    | self => exact .inl rfl
    | left occurs => exact .inr (.inl occurs)
    | right occurs => exact .inr (.inr occurs)
  · rintro (rfl | occurs | occurs)
    · exact .self
    · exact .left occurs
    · exact .right occurs

@[simp] theorem occursIn_index :
    part.OccursIn (index series position) ↔ part = index series position ∨ part.OccursIn position := by
  constructor
  · intro occurs
    cases occurs with
    | self => exact .inl rfl
    | position occurs => exact .inr occurs
  · rintro (rfl | occurs)
    · exact .self
    · exact .position occurs

end Simp

variable (context : Context α)

/-- What an expression needs besides its own parts to have a value. -/
def Resolved : Expr α → Prop
  | .name n => context.hasSeries n = true ∨ (context.scalar? n).isSome = true
  | .call function arguments =>
      ∃ builtin, Builtin.ofName? function = some builtin ∧ builtin.signature.accepts arguments.length = true
  | .index series _ => context.hasSeries series = true
  | _ => True

def AllResolved (e : Expr α) : Prop := ∀ part : Expr α, part.OccursIn e → part.Resolved context

variable {context}

namespace AllResolved

theorem call {function : String} {arguments : List (Expr α)} {builtin : Builtin}
    (named : Builtin.ofName? function = some builtin) (accepts : builtin.signature.accepts arguments.length = true)
    (each : ∀ a ∈ arguments, a.AllResolved context) : (Expr.call function arguments).AllResolved context := by
  intro part occurs
  cases occurs with
  | self => exact ⟨builtin, named, accepts⟩
  | argument mem occurs => exact each _ mem part occurs

theorem binary {left right : Expr α} (first : left.AllResolved context) (op : Operator)
    (second : right.AllResolved context) : (Expr.binary left op right).AllResolved context := by
  intro part occurs
  cases occurs with
  | self => trivial
  | left occurs => exact first part occurs
  | right occurs => exact second part occurs

theorem index {series : String} {position : Expr α} (declared : context.hasSeries series = true)
    (resolved : position.AllResolved context) : (Expr.index series position).AllResolved context := by
  intro part occurs
  cases occurs with
  | self => exact declared
  | position occurs => exact resolved part occurs

theorem name {n : String} (bound : context.hasSeries n = true ∨ (context.scalar? n).isSome = true) :
    (Expr.name n).AllResolved context := by
  intro part occurs
  cases occurs with
  | self => exact bound

end AllResolved

variable [Number α]

theorem evalScalar_resolves (context : Context α) (e : Expr α) :
    Gives (fun _ => e.AllResolved context) (e.evalScalar context) := by
  induction e using Expr.induction with
  | number | text | boolean => exact .ok fun part occurs => by cases occurs; trivial
  | name n =>
    unfold evalScalar
    split
    · next value bound => exact .ok (.name (.inr (by rw [bound]; rfl)))
    · exact .error _
  | call function arguments ih =>
    unfold evalScalar
    split
    · exact .error _
    next builtin named =>
    split
    · exact .error _
    split
    · exact (ih _ (by simp)).bind fun _ first => (Gives.trivial _).bind fun _ _ =>
        .ok (.call named rfl (by simpa using first))
    · exact (ih _ (by simp)).bind fun _ first => (Gives.trivial _).bind fun _ _ =>
        (ih _ (by simp)).bind fun _ second => (Gives.trivial _).bind fun _ _ =>
        .ok (.call named rfl (by simpa using ⟨first, second⟩))
    · exact (ih _ (by simp)).bind fun _ first => (Gives.trivial _).bind fun _ _ =>
        (Gives.trivial _).mono fun _ _ => .call named rfl (by simpa using first)
    · exact (ih _ (by simp)).bind fun _ first => (Gives.trivial _).bind fun _ _ =>
        (ih _ (by simp)).bind fun _ second => (Gives.trivial _).mono fun _ _ =>
        .call named rfl (by simpa using ⟨first, second⟩)
    · exact .error _
  | binary left op right ihLeft ihRight =>
    unfold evalScalar
    exact ihLeft.bind fun _ first => ihRight.bind fun _ second =>
      (Gives.trivial _).mono fun _ _ => first.binary op second
  | index series position ih =>
    unfold evalScalar
    split
    · exact .error _
    · next values bound =>
      have declared : context.hasSeries series = true := by
        rw [Context.hasSeries, Bindings.contains, bound]
        rfl
      exact ih.bind fun _ resolved => (Gives.trivial _).mono fun _ _ => .index declared resolved

theorem evalConstant_resolves (context : Context α) (e : Expr α) :
    Gives (fun _ => e.AllResolved context) (e.evalConstant context) :=
  (evalScalar_resolves context e).bind fun _ resolved => (Gives.trivial _).mono fun _ _ => resolved

theorem operandOf_resolves {e : Expr α} {series : Unit → Except (EvalError α) (List α)}
    (resolves : Gives (fun _ => e.AllResolved context) (series ())) :
    Gives (fun _ => e.AllResolved context) (operandOf context e series) := by
  unfold operandOf
  split
  · exact resolves.bind fun _ resolved => .ok resolved
  · exact (evalScalar_resolves context e).bind fun _ resolved => (Gives.trivial _).bind fun _ _ => .ok resolved

theorem evalSeries_resolves (context : Context α) (e : Expr α) :
    Gives (fun _ => e.AllResolved context) (e.evalSeries context) := by
  induction e using Expr.induction with
  | number | text | boolean | index => exact evalConstant_resolves context _
  | name n =>
    unfold evalSeries
    split
    · next values bound => exact .ok (.name (.inl (by rw [Context.hasSeries, Bindings.contains, bound]; rfl)))
    · split
      · next value bound => exact (Gives.trivial _).bind fun _ _ => .ok (.name (.inr (by rw [bound]; rfl)))
      · exact .error _
  | call function arguments ih =>
    have scalar (a : Expr α) := evalScalar_resolves context a
    unfold evalSeries
    split
    · exact .error _
    next builtin named =>
    split
    -- prices and their averages, which take nothing
    · exact .ok (.call named rfl nofun)
    · exact .ok (.call named rfl nofun)
    -- indicators
    · exact (ih _ (by simp)).bind fun _ first => (scalar _).bind fun _ second => (Gives.trivial _).bind fun _ _ =>
        .ok (.call named rfl (by simpa using ⟨first, second⟩))
    · exact (ih _ (by simp)).bind fun _ first => (scalar _).bind fun _ second => (Gives.trivial _).bind fun _ _ =>
        (scalar _).bind fun _ third => (Gives.trivial _).bind fun _ _ =>
        .ok (.call named rfl (by simpa using ⟨first, second, third⟩))
    · exact (ih _ (by simp)).bind fun _ first => (scalar _).bind fun _ second => (Gives.trivial _).bind fun _ _ =>
        (scalar _).bind fun _ third => (Gives.trivial _).bind fun _ _ =>
        .ok (.call named rfl (by simpa using ⟨first, second, third⟩))
    -- elementwise functions
    · exact (operandOf_resolves (ih _ (by simp))).bind fun _ first => .ok (.call named rfl (by simpa using first))
    · exact (operandOf_resolves (ih _ (by simp))).bind fun _ first =>
        (operandOf_resolves (ih _ (by simp))).bind fun _ second => (Gives.trivial _).bind fun _ _ =>
        .ok (.call named rfl (by simpa using ⟨first, second⟩))
    · exact evalConstant_resolves context _
    · exact .error _
  | binary left op right ihLeft ihRight =>
    unfold evalSeries
    exact (operandOf_resolves ihLeft).bind fun _ first => (operandOf_resolves ihRight).bind fun _ second =>
      (Gives.trivial _).mono fun _ _ => first.binary op second

theorem evalDeclared_resolves (context : Context α) (e : Expr α) :
    Gives (fun _ => e.AllResolved context) (e.evalDeclared context) := by
  unfold evalDeclared
  split
  · exact evalSeries_resolves context e
  · exact evalConstant_resolves context e

end Expr

end IndicatorScript
