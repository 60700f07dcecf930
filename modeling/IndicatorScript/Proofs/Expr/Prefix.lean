import IndicatorScript.Expr.Eval
import IndicatorScript.Proofs.Gives
import IndicatorScript.Proofs.Indicator.Prefix

/-!
# Expressions on fewer bars

An expression that has a value on all bars has the same value, cut off, on the first `n` of them, unless a position
that it asks for is not there yet. `Follows` says this of two results, and is carried through the evaluator.
-/

namespace IndicatorScript

/-! ## Cutting off -/

namespace Bindings

variable {β γ : Type}

def map (f : β → γ) (bindings : Bindings β) : Bindings γ :=
  ⟨bindings.entries.map fun entry => (entry.1, f entry.2)⟩

theorem get?_map (f : β → γ) (bindings : Bindings β) (name : String) :
    (bindings.map f).get? name = (bindings.get? name).map f := by
  rcases bindings with ⟨entries⟩
  induction entries with
  | nil => rfl
  | cons entry rest ih =>
    rcases entry with ⟨key, value⟩
    simp only [get?, map, List.map_cons, List.lookup_cons] at ih ⊢
    split
    · rfl
    · exact ih

theorem erase_map (f : β → γ) (bindings : Bindings β) (name : String) :
    (bindings.map f).erase name = (bindings.erase name).map f := by
  simp [erase, map, List.filter_map, Function.comp_def]

theorem insert_map (f : β → γ) (bindings : Bindings β) (name : String) (value : β) :
    (bindings.map f).insert name (f value) = (bindings.insert name value).map f := by
  rw [insert, erase_map, insert, map, map, List.map_cons]

end Bindings

variable {α : Type}

/-- The context with its first `n` bars only. -/
def Context.part (n : Nat) (context : Context α) : Context α :=
  { context with bars := context.bars.take n, series := context.series.map (List.take n) }

theorem Context.hasSeries_part (n : Nat) (context : Context α) : (context.part n).hasSeries = context.hasSeries := by
  funext name
  show ((context.series.map (List.take n)).get? name).isSome = (context.series.get? name).isSome
  rw [Bindings.get?_map, Option.isSome_map]

def Operand.part (n : Nat) : Operand α → Operand α
  | .scalar x => .scalar x
  | .series xs => .series (xs.take n)

/-! ## Results on fewer bars -/

/-- What becomes of a result: the same one, cut off by `cut`, or a position that is out of bounds. -/
def Follows {β γ : Type} (cut : β → γ) (whole : Except (EvalError α) β) (part : Except (EvalError α) γ) : Prop :=
  ∀ x, whole = .ok x → part = .ok (cut x) ∨ ∃ i length series, part = .error (.outOfBounds i length series)

namespace Follows

variable {β γ δ ε : Type} {cut : β → γ} {further : δ → ε}

theorem ok (x : β) : Follows (α := α) cut (.ok x) (.ok (cut x)) := by
  intro y same
  cases same
  exact .inl rfl

theorem error (e : EvalError α) (part : Except (EvalError α) γ) : Follows cut (.error e) part :=
  nofun

theorem refl (result : Except (EvalError α) β) : Follows id result result :=
  fun _ same => .inl same

theorem bind {whole : Except (EvalError α) β} {part : Except (EvalError α) γ} {next : β → Except (EvalError α) δ}
    {next' : γ → Except (EvalError α) ε} (first : Follows cut whole part)
    (second : ∀ x, Follows further (next x) (next' (cut x))) : Follows further (whole >>= next) (part >>= next') := by
  intro y same
  rcases exists_of_bind_eq_ok same with ⟨x, rfl, reached⟩
  rcases first x rfl with same' | ⟨i, length, series, missing⟩
  · rw [same']
    exact second x y reached
  · rw [missing]
    exact .inr ⟨i, length, series, rfl⟩

theorem map {whole part : Except (EvalError α) β} (result : Follows id whole part) (f : β → γ) :
    Follows id (whole.map f) (part.map f) := by
  intro y same
  cases whole with
  | error e => cases same
  | ok x =>
    cases same
    rcases result x rfl with same | ⟨i, length, series, missing⟩
    · rw [same]
      exact .inl rfl
    · rw [missing]
      exact .inr ⟨i, length, series, rfl⟩

end Follows

/-! ## Operations on operands -/

variable {n bars : Nat}

theorem broadcast_take (n bars : Nat) (x : α) : broadcast (Min.min n bars) x = (broadcast bars x).take n := by
  rw [broadcast, broadcast, List.take_replicate]

namespace Operand

theorem values_part (x : Operand α) : (x.part n).values (Min.min n bars) = (x.values bars).take n := by
  cases x with
  | scalar x => exact broadcast_take n bars x
  | series xs => rfl

theorem map_part (f : α → α) (x : Operand α) : (x.part n).map (Min.min n bars) f = (x.map bars f).take n := by
  cases x with
  | scalar x => exact broadcast_take n bars (f x)
  | series xs => exact List.map_take

theorem zipWith_part (f : α → α → α) (x y : Operand α) :
    (x.part n).zipWith (Min.min n bars) f (y.part n) = (x.zipWith bars f y).take n := by
  cases x with
  | scalar x =>
    cases y with
    | scalar y => exact broadcast_take n bars (f x y)
    | series ys => exact List.map_take
  | series xs =>
    cases y with
    | scalar y => exact List.map_take
    | series ys => exact List.take_zipWith.symm

theorem checkAligned_part (x y : Operand α) :
    Follows id (x.checkAligned y) ((x.part n).checkAligned (y.part n)) := by
  intro done aligned
  cases x with
  | scalar x => exact .inl rfl
  | series xs =>
    cases y with
    | scalar y => exact .inl rfl
    | series ys =>
      by_cases same : xs.length = ys.length
      · exact .inl (if_pos (by rw [List.length_take, List.length_take, same]))
      · rw [checkAligned, if_neg same] at aligned
        cases aligned

end Operand

variable [Number α]

theorem Operand.hasZero_of_part {x : Operand α} (zero : (x.part n).hasZero = true) : x.hasZero = true := by
  cases x with
  | scalar x => exact zero
  | series xs =>
    rcases List.any_eq_true.mp zero with ⟨x, mem, isZero⟩
    exact List.any_eq_true.mpr ⟨x, List.mem_of_mem_take mem, isZero⟩

theorem Test.applySeries_take (op : Test) (xs ys : List α) :
    Follows (List.take n) (op.applySeries xs ys) (op.applySeries (xs.take n) (ys.take n)) := by
  intro zs applied
  have connective : List.zipWith op.applyAt (xs.take n) (ys.take n) ++
      List.replicate (Max.max (xs.take n).length (ys.take n).length - Min.min (xs.take n).length (ys.take n).length)
        (Number.nan : α) =
      (List.zipWith op.applyAt xs ys ++
        List.replicate (Max.max xs.length ys.length - Min.min xs.length ys.length) (Number.nan : α)).take n := by
    rw [List.take_append, List.take_zipWith, List.take_replicate, List.length_zipWith, List.length_take,
      List.length_take]
    congr 2
    omega
  have comparison : (if xs.length = ys.length then Except.ok (List.zipWith op.applyAt xs ys) else
      .error (EvalError.incomparableLengths : EvalError α)) = .ok zs →
      (if (xs.take n).length = (ys.take n).length then Except.ok (List.zipWith op.applyAt (xs.take n) (ys.take n)) else
        .error (EvalError.incomparableLengths : EvalError α)) = .ok (zs.take n) := by
    intro applied
    split at applied
    · next same =>
      cases applied
      rw [if_pos (by rw [List.length_take, List.length_take, same]), List.take_zipWith]
    · cases applied
  cases op with
  | not =>
    cases applied
    exact .inl (congrArg Except.ok List.map_take)
  | and | or =>
    cases applied
    exact .inl (congrArg Except.ok connective)
  | _ => exact .inl (comparison applied)

theorem Operator.applySeries_part (op : Operator) (x y : Operand α) :
    Follows (List.take n) (op.applySeries bars x y) (op.applySeries (Min.min n bars) (x.part n) (y.part n)) := by
  refine .bind (Operand.checkAligned_part x y) fun _ => ?_
  cases op with
  | arithmetic op =>
    dsimp only
    by_cases zero : op = .divide ∧ y.hasZero = true
    · rw [if_pos zero]
      exact .error _ _
    · have zeroPart : ¬ (op = .divide ∧ (y.part n).hasZero = true) := fun ⟨divides, isZero⟩ =>
        zero ⟨divides, Operand.hasZero_of_part isZero⟩
      rw [if_neg zero, if_neg zeroPart, Operand.zipWith_part]
      exact .ok _
  | test op =>
    show Follows _ (op.applySeries _ _) (op.applySeries _ _)
    rw [Operand.values_part, Operand.values_part]
    exact op.applySeries_take _ _
  | unknown symbol => exact .error _ _

/-! ## Expressions -/

namespace Expr

theorem positionIn_part (series : String) (values : List α) (index : α) :
    Follows id (positionIn series values index) (positionIn series (values.take n) index) := by
  unfold positionIn
  split
  · exact .error _ _
  · next i _ =>
    by_cases negative : i < 0
    · rw [if_pos negative]
      exact .error _ _
    · rw [if_neg negative, if_neg negative]
      by_cases inside : i.toNat < n
      · rw [List.getElem?_take_of_lt inside]
        split
        · exact .ok _
        · exact .error _ _
      · rw [List.getElem?_take_eq_none (Nat.le_of_not_lt inside)]
        exact fun _ _ => .inr ⟨_, _, _, rfl⟩

theorem evalScalar_part (n : Nat) (context : Context α) (e : Expr α) :
    Follows id (e.evalScalar context) (e.evalScalar (context.part n)) := by
  induction e using Expr.induction with
  | number | text | boolean => exact .refl _
  | name m => exact .refl _
  | call function arguments ih =>
    unfold evalScalar
    split
    · exact .error _ _
    split
    · exact .error _ _
    split
    · next x _ _ => exact (ih x List.mem_cons_self).bind fun x => .refl _
    · next x y _ _ =>
      have second := ih y (List.mem_cons_of_mem x List.mem_cons_self)
      exact (ih x List.mem_cons_self).bind fun x => .bind (.refl _) fun x => second.bind fun y => .refl _
    · next title _ _ => exact (ih title List.mem_cons_self).bind fun title => .refl _
    · next title default _ _ =>
      have second := ih default (List.mem_cons_of_mem title List.mem_cons_self)
      exact (ih title List.mem_cons_self).bind fun title => .bind (.refl _) fun title =>
        second.bind fun default => .refl _
    · exact .error _ _
  | binary left op right ihLeft ihRight =>
    unfold evalScalar
    exact ihLeft.bind fun x => ihRight.bind fun y => .refl _
  | index series position ih =>
    unfold evalScalar
    rw [show (context.part n).series.get? series = (context.series.get? series).map (List.take n) from
      Bindings.get?_map _ _ _]
    cases context.series.get? series with
    | none => exact .error _ _
    | some values =>
      refine ih.bind fun x => .bind (.refl _) fun index => ?_
      exact (positionIn_part series values index).map Value.number

theorem evalConstant_part (n : Nat) (context : Context α) (e : Expr α) :
    Follows (List.take n) (e.evalConstant context) (e.evalConstant (context.part n)) := by
  refine (evalScalar_part n context e).bind fun x => .bind (.refl _) fun x => ?_
  rw [show (context.part n).bars.length = Min.min n context.bars.length from List.length_take, id, broadcast_take]
  exact .ok _

theorem operandOf_part {n : Nat} {context : Context α} {e : Expr α} {series part : Unit → Except (EvalError α) (List α)}
    (same : Follows (List.take n) (series ()) (part ())) :
    Follows (Operand.part n) (operandOf context e series) (operandOf (context.part n) e part) := by
  unfold operandOf
  rw [Context.hasSeries_part]
  split
  · exact same.bind fun values => .ok _
  · exact (evalScalar_part n context e).bind fun x => .bind (.refl _) fun x => .ok _

theorem evalSeries_part (n : Nat) (context : Context α) (e : Expr α) :
    Follows (List.take n) (e.evalSeries context) (e.evalSeries (context.part n)) := by
  have bars : (context.part n).bars.length = Min.min n context.bars.length := List.length_take
  induction e using Expr.induction with
  | number | text | boolean | index => exact evalConstant_part n context _
  | name m =>
    unfold evalSeries
    rw [show (context.part n).series.get? m = (context.series.get? m).map (List.take n) from Bindings.get?_map _ _ _]
    cases context.series.get? m with
    | none =>
      dsimp only [Option.map_none]
      rw [show (context.part n).scalar? m = context.scalar? m from rfl]
      split
      · next value _ =>
        refine .bind (.refl _) fun x => ?_
        rw [bars, id, broadcast_take]
        exact .ok _
      · exact .error _ _
    | some values => exact .ok values
  | call function arguments ih =>
    unfold evalSeries
    split
    · exact .error _ _
    split
    · rw [show (context.part n).bars = context.bars.take n from rfl, List.map_take]
      exact .ok _
    · rw [show (context.part n).bars = context.bars.take n from rfl, List.map_take]
      exact .ok _
    · next indicator x length _ =>
      refine (ih x List.mem_cons_self).bind fun values => (evalScalar_part n context length).bind fun value =>
        .bind (.refl _) fun length => ?_
      rw [Windowed.apply_take]
      exact .ok _
    · next part x fast slow _ =>
      refine (ih x List.mem_cons_self).bind fun values => (evalScalar_part n context fast).bind fun value =>
        .bind (.refl _) fun fast => (evalScalar_part n context slow).bind fun value =>
        .bind (.refl _) fun slow => ?_
      rw [Convergence.apply_take]
      exact .ok _
    · next line x length multiple _ =>
      refine (ih x List.mem_cons_self).bind fun values => (evalScalar_part n context length).bind fun value =>
        .bind (.refl _) fun length => (evalScalar_part n context multiple).bind fun value =>
        .bind (.refl _) fun multiple => ?_
      rw [Band.apply_take]
      exact .ok _
    · next x _ =>
      refine (operandOf_part (ih x List.mem_cons_self)).bind fun x => ?_
      rw [bars, Operand.map_part]
      exact .ok _
    · next which x y _ =>
      have second := ih y (List.mem_cons_of_mem x List.mem_cons_self)
      refine (operandOf_part (ih x List.mem_cons_self)).bind fun x => (operandOf_part second).bind fun y => ?_
      refine (Operand.checkAligned_part x y).bind fun _ => ?_
      rw [bars, Operand.zipWith_part]
      exact .ok _
    · exact evalConstant_part n context _
    · exact .error _ _
  | binary left op right ihLeft ihRight =>
    unfold evalSeries
    refine (operandOf_part ihLeft).bind fun x => (operandOf_part ihRight).bind fun y => ?_
    rw [bars]
    exact op.applySeries_part x y

theorem evalDeclared_part (n : Nat) (context : Context α) (e : Expr α) :
    Follows (List.take n) (e.evalDeclared context) (e.evalDeclared (context.part n)) := by
  unfold evalDeclared
  rw [Context.hasSeries_part]
  split
  · exact evalSeries_part n context e
  · exact evalConstant_part n context e

end Expr

end IndicatorScript
