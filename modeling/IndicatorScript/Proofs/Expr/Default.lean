import IndicatorScript.Proofs.Expr.Mentions

/-!
# Inputs with another default

`withDefault` writes a number as the default of every input with a given title. An expression evaluates under a
parameter of that title to what it evaluates to without the parameter, but with the number as the default
(`evalScalar_withDefault`, `evalSeries_withDefault`). The converse fails: a default that is written over is not
evaluated any more, so it may have been one that fails.
-/

namespace IndicatorScript

variable {α : Type}

/-! ## Results that are kept -/

/-- What the first computation gives, the second one gives as well. -/
def KeptBy {β ε : Type} (result other : Except ε β) : Prop := ∀ x, result = .ok x → other = .ok x

namespace KeptBy

variable {β γ ε : Type} {result other : Except ε β}

theorem refl (result : Except ε β) : KeptBy result result := fun _ same => same

theorem of_eq (same : other = result) : KeptBy result other := same ▸ refl other

theorem error (e : ε) (other : Except ε β) : KeptBy (.error e) other := nofun

theorem bind {next next' : β → Except ε γ} (first : KeptBy result other) (second : ∀ x, KeptBy (next x) (next' x)) :
    KeptBy (result >>= next) (other >>= next') := by
  intro y same
  rcases exists_of_bind_eq_ok same with ⟨x, given, same⟩
  rw [first x given]
  exact second x y same

theorem followed (first : KeptBy result other) (next : β → Except ε γ) : KeptBy (result >>= next) (other >>= next) :=
  first.bind fun x => refl (next x)

end KeptBy

/-! ## Writing the default -/

namespace Expr

/-- The call asks for the parameter of that title, with or without a default. -/
def isInputOf (title function : String) (arguments : List (Expr α)) : Bool :=
  match Builtin.ofName? function, arguments with
  | some .input, [.text given] | some .input, [.text given, _] => given = title
  | _, _ => false

mutual

def withDefault (title : String) (x : α) : Expr α → Expr α
  | .call function arguments =>
      if isInputOf title function arguments then .call function [.text title, .number x]
      else .call function (withDefaultAll title x arguments)
  | .binary left op right => .binary (left.withDefault title x) op (right.withDefault title x)
  | .index series position => .index series (position.withDefault title x)
  | e => e

def withDefaultAll (title : String) (x : α) : List (Expr α) → List (Expr α)
  | [] => []
  | e :: rest => e.withDefault title x :: withDefaultAll title x rest

end

/-- Every title in the expression is a text, and this one is no name in it. -/
structure Asks (title : String) (e : Expr α) : Prop where
  titles : ∀ asked : Expr α, asked.IsTitle e → ∃ text, asked = .text text
  unnamed : ¬ (name title).OccursIn e

variable {title function : String} {x : α} {e : Expr α} {arguments : List (Expr α)}

namespace Asks

theorem part {part : Expr α} (asks : e.Asks title) (occurs : part.OccursIn e) : part.Asks title := by
  refine ⟨fun asked ⟨function, rest, named, stands⟩ => ?_, fun stands => asks.unnamed (stands.trans occurs)⟩
  exact asks.titles asked ⟨function, rest, named, stands.trans occurs⟩

theorem text {asked : Expr α} {rest : List (Expr α)} (asks : (call function (asked :: rest)).Asks title)
    (named : Builtin.ofName? function = some .input) : ∃ text, asked = .text text :=
  asks.titles asked ⟨function, rest, named, .self⟩

end Asks

theorem isInputOf_iff : isInputOf title function arguments = true ↔
    Builtin.ofName? function = some .input ∧
      (arguments = [.text title] ∨ ∃ default, arguments = [.text title, default]) := by
  unfold isInputOf
  split
  · next given named => simp [named]
  · next given default named => simp [named]
  · next other other' =>
    refine ⟨nofun, ?_⟩
    rintro ⟨named, rfl | ⟨default, rfl⟩⟩
    · exact absurd rfl (other title named)
    · exact absurd rfl (other' title default named)

theorem withDefault_call_of_not (other : isInputOf title function arguments = false) :
    (call function arguments).withDefault title x = call function (withDefaultAll title x arguments) := by
  rw [withDefault, if_neg (Bool.eq_false_iff.mp other)]

theorem withDefault_call_of_ne (named : Builtin.ofName? function ≠ some .input) :
    (call function arguments).withDefault title x = call function (withDefaultAll title x arguments) :=
  withDefault_call_of_not (Bool.eq_false_iff.mpr fun isInput => named (isInputOf_iff.mp isInput).1)

theorem exists_withDefault_call (title : String) (x : α) (function : String) (arguments : List (Expr α)) :
    ∃ arguments', (call function arguments).withDefault title x = call function arguments' := by
  rw [withDefault]
  split
  · exact ⟨_, rfl⟩
  · exact ⟨_, rfl⟩

theorem withDefaultAll_eq (title : String) (x : α) (arguments : List (Expr α)) :
    withDefaultAll title x arguments = arguments.map (withDefault title x) := by
  induction arguments with
  | nil => rfl
  | cons e rest ih => rw [withDefaultAll, ih, List.map_cons]

theorem anySeries_map {declared : String → Bool} {f : Expr α → Expr α}
    (each : ∀ a ∈ arguments, (f a).isSeries declared = a.isSeries declared) :
    anySeries declared (arguments.map f) = anySeries declared arguments := by
  induction arguments with
  | nil => rfl
  | cons a rest ih =>
    rw [List.map_cons, anySeries, each a List.mem_cons_self, ih fun b mem => each b (List.mem_cons_of_mem a mem),
      anySeries]

theorem isSeries_withDefault (declared : String → Bool) (e : Expr α) :
    (e.withDefault title x).isSeries declared = e.isSeries declared := by
  induction e using Expr.induction with
  | number | text | boolean | name | index => rfl
  | call function arguments ih =>
    by_cases isInput : isInputOf title function arguments = true
    · have named := (isInputOf_iff.mp isInput).1
      rw [withDefault, if_pos isInput]
      simp [isSeries, named, Builtin.signature]
    · rw [withDefault, if_neg isInput, isSeries, isSeries, withDefaultAll_eq, anySeries_map ih]
  | binary left op right ihLeft ihRight => rw [withDefault, isSeries, isSeries, ihLeft, ihRight]

end Expr

/-! ## Evaluating with the parameter and with the default -/

def Context.given (title : String) (x : α) (context : Context α) : Context α :=
  context.withParameters (context.parameters.insert title (.number x))

namespace Expr

variable {context : Context α} {title : String} {x : α} {e : Expr α}

theorem scalar?_given {n : String} (other : n ≠ title) : (context.given title x).scalar? n = context.scalar? n := by
  simp only [Context.given, Context.withParameters, Context.scalar?, Bindings.get?_insert_of_ne _ _ other]

theorem input_given (default : Value α) : input (context.given title x) title default = .ok (.number x) := by
  simp only [input, Context.given, Context.withParameters, Bindings.get?_insert_self]

theorem input_given_of_ne {asked : String} (other : asked ≠ title) (default : Value α) :
    input (context.given title x) asked default = input context asked default :=
  input_withParameters (Bindings.get?_insert_of_ne _ _ other) default

variable [Number α]

section Call

variable {function : String} {arguments : List (Expr α)}

/-- An input with that title comes to the parameter, whichever default is written. -/
theorem evalScalar_given_input (isInput : isInputOf title function arguments = true) :
    Gives (· = .number x) ((call function arguments).evalScalar (context.given title x)) := by
  have comes (default : Value α) : Gives (· = .number x) (input (context.given title x) title default) := by
    rw [input_given]
    exact .ok rfl
  rcases isInputOf_iff.mp isInput with ⟨named, rfl | ⟨default, rfl⟩⟩
  · simp only [evalScalar, named]
    exact comes .none
  · simp only [evalScalar, named]
    have given : Gives (· = .number x) (do
        let value ← default.evalScalar (context.given title x)
        input (context.given title x) title value) :=
      (Gives.trivial _).bind fun value _ => comes value
    exact given

/-- Without a parameter of that title it comes to its default. -/
theorem evalScalar_default (named : Builtin.ofName? function = some .input)
    (unset : context.parameters.get? title = none) :
    (call function [.text title, .number x]).evalScalar context = .ok (.number x) := by
  have comes : input context title (.number x) = .ok (.number x) := by
    unfold input
    rw [unset]
  simp only [evalScalar, named]
  exact comes

theorem evalScalar_withDefault (unset : context.parameters.get? title = none) (asks : e.Asks title) :
    KeptBy (e.evalScalar (context.given title x)) ((e.withDefault title x).evalScalar context) := by
  induction e using Expr.induction with
  | number | text | boolean => exact .refl _
  | name n =>
    have other : n ≠ title := fun same => asks.unnamed (same ▸ .self)
    rw [evalScalar, scalar?_given other]
    exact .refl _
  | call function arguments ih =>
    have part {a : Expr α} (mem : a ∈ arguments) :
        KeptBy (a.evalScalar (context.given title x)) ((a.withDefault title x).evalScalar context) :=
      ih a mem (asks.part (.argument mem .self))
    cases isInput : isInputOf title function arguments with
    | true =>
      intro value given
      rw [evalScalar_given_input isInput value given, withDefault, if_pos isInput]
      exact evalScalar_default (isInputOf_iff.mp isInput).1 unset
    | false =>
      -- an input among these calls has another title, so it reads the same parameter in both contexts
      rw [withDefault_call_of_not isInput, withDefaultAll_eq]
      unfold evalScalar
      split
      · exact .error _ _
      next builtin named =>
      split
      · exact .error _ _
      split
      · exact (part (by simp)).followed _
      · exact (part (by simp)).bind fun _ => .bind (.refl _) fun _ => (part (by simp)).followed _
      · next asked _ =>
        rcases asks.text named with ⟨text, rfl⟩
        have other : text ≠ title := by simpa [isInputOf, named] using isInput
        exact .of_eq (input_given_of_ne other .none).symm
      · next asked default _ =>
        rcases asks.text named with ⟨text, rfl⟩
        have other : text ≠ title := by simpa [isInputOf, named] using isInput
        exact (part (a := default) (by simp)).bind fun value => .of_eq (input_given_of_ne other value).symm
      · exact .error _ _
  | binary left op right ihLeft ihRight =>
    rw [withDefault]
    unfold evalScalar
    exact (ihLeft (asks.part (.left .self))).bind fun _ => (ihRight (asks.part (.right .self))).followed _
  | index series position ih =>
    rw [withDefault]
    unfold evalScalar
    split
    · exact .error _ _
    · next values bound =>
      rw [show context.series.get? series = some values from bound]
      exact (ih (asks.part (.position .self))).followed _

theorem evalConstant_withDefault (unset : context.parameters.get? title = none) (asks : e.Asks title) :
    KeptBy (e.evalConstant (context.given title x)) ((e.withDefault title x).evalConstant context) :=
  (evalScalar_withDefault unset asks).followed _

theorem operandOf_withDefault (unset : context.parameters.get? title = none) (asks : e.Asks title)
    (series : KeptBy (e.evalSeries (context.given title x)) ((e.withDefault title x).evalSeries context)) :
    KeptBy (operandOf (context.given title x) e fun _ => e.evalSeries (context.given title x))
      (operandOf context (e.withDefault title x) fun _ => (e.withDefault title x).evalSeries context) := by
  unfold operandOf
  rw [isSeries_withDefault, show (context.given title x).hasSeries = context.hasSeries from rfl]
  split
  · exact series.followed _
  · exact (evalScalar_withDefault unset asks).followed _

theorem evalSeries_withDefault (unset : context.parameters.get? title = none) (asks : e.Asks title) :
    KeptBy (e.evalSeries (context.given title x)) ((e.withDefault title x).evalSeries context) := by
  induction e using Expr.induction with
  | number | text | boolean | index =>
    unfold evalSeries
    exact evalConstant_withDefault unset asks
  | name n =>
    have other : n ≠ title := fun same => asks.unnamed (same ▸ .self)
    unfold evalSeries
    rw [scalar?_given other]
    exact .refl _
  | call function arguments ih =>
    have part {a : Expr α} (mem : a ∈ arguments) : a.Asks title := asks.part (.argument mem .self)
    have series {a : Expr α} (mem : a ∈ arguments) := ih a mem (part mem)
    have scalar {a : Expr α} (mem : a ∈ arguments) := evalScalar_withDefault (x := x) unset (part mem)
    have operand {a : Expr α} (mem : a ∈ arguments) := operandOf_withDefault unset (part mem) (series mem)
    by_cases named : Builtin.ofName? function = some .input
    · rcases exists_withDefault_call title x function arguments with ⟨arguments', same⟩
      have constant := evalConstant_withDefault (x := x) unset asks
      rw [same] at constant ⊢
      simp only [evalSeries, named]
      exact constant
    · rw [withDefault_call_of_ne named, withDefaultAll_eq]
      unfold evalSeries
      split
      · exact .error _ _
      next builtin isBuiltin =>
      split
      -- prices and their averages
      · exact .refl _
      · exact .refl _
      -- indicators
      · exact (series (by simp)).bind fun _ => (scalar (by simp)).followed _
      · exact (series (by simp)).bind fun _ => (scalar (by simp)).bind fun _ => .bind (.refl _) fun _ =>
          (scalar (by simp)).followed _
      · exact (series (by simp)).bind fun _ => (scalar (by simp)).bind fun _ => .bind (.refl _) fun _ =>
          (scalar (by simp)).followed _
      -- elementwise functions
      · exact (operand (by simp)).followed _
      · exact (operand (by simp)).bind fun _ => (operand (by simp)).followed _
      · exact absurd isBuiltin named
      · exact .error _ _
  | binary left op right ihLeft ihRight =>
    have first := asks.part (.left .self)
    have second := asks.part (.right .self)
    rw [withDefault]
    unfold evalSeries
    exact (operandOf_withDefault unset first (ihLeft first)).bind fun _ =>
      (operandOf_withDefault unset second (ihRight second)).followed _

theorem evalDeclared_withDefault (unset : context.parameters.get? title = none) (asks : e.Asks title) :
    KeptBy (e.evalDeclared (context.given title x)) ((e.withDefault title x).evalDeclared context) := by
  unfold evalDeclared
  rw [isSeries_withDefault, show (context.given title x).hasSeries = context.hasSeries from rfl]
  split
  · exact evalSeries_withDefault unset asks
  · exact evalConstant_withDefault unset asks

end Call

end Expr

end IndicatorScript
