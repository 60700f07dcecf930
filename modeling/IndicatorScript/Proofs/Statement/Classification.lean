import IndicatorScript.Proofs.Gives
import IndicatorScript.Statement.Parser

/-!
# What the parser knows at each statement

The parser decides whether a declaration makes a series by the names declared as series before it. `traced` is the
parser with these names written beside each statement.
-/

namespace IndicatorScript

variable {α : Type}

namespace Statement

/-- A declaration is of the kind that its expression has, given which names are series. -/
def Classified (isSeries : String → Bool) : Statement α → Prop
  | .scalar _ value => value.isSeries isSeries = false
  | .series _ value => value.isSeries isSeries = true
  | .study _ | .plot _ => True

theorem classified_declaration (declared : List String) (name : String) (value : Expr α) :
    (declaration declared name value).Classified declared.contains := by
  unfold declaration
  split
  · next isSeries => exact isSeries
  · next isScalar => exact Bool.eq_false_iff.mpr isScalar

def declaredAfterAll (declared : List String) (statements : List (Statement α)) : List String :=
  statements.foldl declaredAfter declared

section Tracing

variable [Literal α] (bounds : Bounds) (room : Nat)

theorem clause_classified (declared : List String) (tokens : List Token) :
    Gives (fun out => out.1.Classified declared.contains) (clause (α := α) bounds room declared tokens) := by
  unfold clause
  split
  · exact .error _
  split
  · exact .error _
  split
  · exact (Gives.trivial _).bind fun _ _ => .ok trivial
  split
  · exact (Gives.trivial _).bind fun out _ => .ok (classified_declaration declared _ _)
  split
  · exact (Gives.trivial _).bind fun _ _ => .ok trivial
  · exact .error _

/-- The statements of a script, each with the names that were declared as series when it was read. -/
def traced (declared : List String) (tokens : List Token) :
    Except SyntaxError (List (List String × Statement α)) :=
  match tokens with
  | [] => .ok []
  | t :: rest =>
      if t.kind = .newline ∨ t.kind = .comment then traced declared rest
      else do
        let (statement, after) ← clause bounds room declared (t :: rest)
        let after ← lineEnd bounds after
        if after.length ≤ rest.length then
          let further ← traced (statement.declaredAfter declared) after
          .ok ((declared, statement) :: further)
        else .ok [(declared, statement)]
  termination_by tokens.length
  decreasing_by
    · simp
    · rw [List.length_cons]; omega

theorem statements_eq_traced (declared : List String) (tokens : List Token) :
    statements (α := α) bounds room declared tokens = (traced bounds room declared tokens).map (List.map Prod.snd) := by
  induction declared, tokens using statements.induct (α := α) with
  | case1 declared =>
    rw [statements, traced]
    rfl
  | case2 declared t rest skipped ih => rw [statements, traced, if_pos skipped, if_pos skipped, ih]
  | case3 declared t rest kept ih =>
    rw [statements, traced, if_neg kept, if_neg kept]
    cases clause (α := α) bounds room declared (t :: rest) with
    | error e => rfl
    | ok out =>
      rcases out with ⟨statement, after⟩
      simp only [bind, Except.bind]
      cases lineEnd bounds after with
      | error e => rfl
      | ok after =>
        dsimp only
        by_cases shorter : after.length ≤ rest.length
        · rw [if_pos shorter, if_pos shorter, ih statement after shorter]
          cases traced (α := α) bounds room (statement.declaredAfter declared) after <;> rfl
        · rw [if_neg shorter, if_neg shorter]
          rfl

/-- A trace that begins with these names: each statement is of the kind that the names beside it give it, and changes
them for the next one. -/
def IsTrace (declared : List String) : List (List String × Statement α) → Prop
  | [] => True
  | (names, statement) :: rest =>
      names = declared ∧ statement.Classified names.contains ∧ IsTrace (statement.declaredAfter declared) rest

theorem traced_isTrace (declared : List String) (tokens : List Token) :
    Gives (IsTrace declared) (traced (α := α) bounds room declared tokens) := by
  induction declared, tokens using statements.induct (α := α) with
  | case1 declared =>
    rw [traced]
    exact .ok trivial
  | case2 declared t rest skipped ih =>
    rw [traced, if_pos skipped]
    exact ih
  | case3 declared t rest kept ih =>
    rw [traced, if_neg kept]
    refine (clause_classified bounds room declared (t :: rest)).bind fun out classified => ?_
    rcases out with ⟨statement, _⟩
    refine (Gives.trivial _).bind fun after _ => ?_
    split
    · next shorter =>
      exact (ih statement after shorter).bind fun further isTrace => .ok ⟨rfl, classified, isTrace⟩
    · exact .ok ⟨rfl, classified, trivial⟩

end Tracing

theorem IsTrace.split {declared names : List String} {statement : Statement α}
    {before after : List (List String × Statement α)}
    (isTrace : IsTrace declared (before ++ (names, statement) :: after)) :
    names = declaredAfterAll declared (before.map Prod.snd) ∧ statement.Classified names.contains := by
  induction before generalizing declared with
  | nil => exact ⟨isTrace.1, isTrace.2.1⟩
  | cons entry before ih => exact ih isTrace.2.2

end Statement

def parseTraced [Literal α] (limit : Limit) (source : String) :
    Except SyntaxError (List (List String × Statement α)) := do
  let tokens ← tokenize source
  let ahead := tokens.takeWhile (·.kind ≠ .endOfScript)
  Statement.traced ⟨limit, lastLine tokens⟩ (limit.room (ahead.length + 1)) [] ahead

theorem parse_eq_parseTraced [Literal α] (limit : Limit) (source : String) :
    parse (α := α) limit source = (parseTraced limit source).map (List.map Prod.snd) := by
  unfold parse parseTraced
  cases tokenize source with
  | error e => rfl
  | ok tokens => exact Statement.statements_eq_traced _ _ [] _

theorem parseTraced_isTrace [Literal α] (limit : Limit) (source : String) :
    Gives (Statement.IsTrace []) (parseTraced (α := α) limit source) :=
  (Gives.trivial _).bind fun _ _ => Statement.traced_isTrace _ _ [] _

end IndicatorScript
