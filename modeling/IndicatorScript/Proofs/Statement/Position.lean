import IndicatorScript.Proofs.Expr.Position
import IndicatorScript.Proofs.Statement.Limit
import IndicatorScript.Proofs.Statement.Study

/-!
# Reading scripts by position

Whole scripts, read by position as the expressions in them are. The reader ends on every list of tokens, with what the
parser gives, and each part of it goes on from wherever it begins (`parsing_progresses`).
-/

namespace IndicatorScript

def Token.between? (t : Token) : Option Token := if t.kind = .newline ∨ t.kind = .comment then some t else none

/-! ## Strictly fewer tokens -/

section Shorter

variable {α : Type} [Literal α] {bounds : Bounds}

theorem Bounds.expect_shorter (kind : Token.Kind) (what : Expectation) (tokens : List Token) :
    Gives (fun out => out.2.length < tokens.length) (bounds.expect kind what tokens) := by
  cases tokens with
  | nil => exact .error _
  | cons t rest =>
    rw [Bounds.expect]
    split
    · exact .ok (Nat.lt_succ_self _)
    · exact .error _

theorem Statement.studyParameter_shorter (room : Nat) (header : Study) (tokens : List Token) :
    Gives (fun out => out.2.length < tokens.length) (studyParameter (α := α) bounds room header tokens) := by
  unfold studyParameter
  refine (Bounds.expect_shorter _ _ tokens).bind fun name shorter => ?_
  have less {β : Type} {result : Except SyntaxError (β × List Token)} (reports : Reports α bounds name.2 result) :
      Gives (fun out => out.2.length < tokens.length) result :=
    reports.gives.mono fun _ left => Nat.lt_of_le_of_lt left.length_le shorter
  refine less ((Reports.expect _ _ name.2).bind fun equal rest => ?_)
  dsimp only
  split
  · exact (Reports.expect _ _ rest).bind fun value rest => .ok _
  split
  · exact (Reports.expect _ _ rest).bind fun value rest => .ok _
  split
  · exact (Reports.expect _ _ rest).bind fun value rest => .ok _
  · exact (expression_reports room rest).bind fun value rest => .ok _

theorem Expr.primary_shorter (room : Nat) (tokens : List Token) :
    Gives (fun out => out.2.length < tokens.length) (primary (α := α) bounds room tokens) := by
  cases tokens with
  | nil =>
    rw [primary]
    exact .error _
  | cons t rest =>
    have one : rest.length < (t :: rest).length := Nat.lt_succ_self _
    rw [primary]
    split
    · exact .ok one
    · split
      · exact .ok one
      · exact .error _
    · exact .ok one
    · exact .ok one
    · have inner := (expression_reports (α := α) bounds room rest).followed .rightParen .parenAfterExpression
      exact inner.gives.mono fun _ left => Nat.lt_of_le_of_lt left.length_le one
    · exact .error _

def Statement.terminated (bounds : Bounds) (room : Nat) (declared : List String) (tokens : List Token) :
    Except SyntaxError (Statement α × List Token) := do
  let (statement, rest) ← clause bounds room declared tokens
  let rest ← lineEnd bounds rest
  .ok (statement, rest)

theorem Statement.terminated_shorter (room : Nat) (declared : List String) (t : Token) (rest : List Token) :
    Gives (fun out => out.2 <:+ rest) (terminated (α := α) bounds room declared (t :: rest)) := by
  refine (clause_shorter bounds room declared t rest).bind fun out left => ?_
  have ends : Gives (fun after => after <:+ out.2) (lineEnd bounds out.2) := (lineEnd_reports (α := α) out.2).gives
  exact ends.bind fun after ends => .ok (ends.trans left)

theorem Statement.statements_cons (room : Nat) (declared : List String) {t : Token} (rest : List Token)
    (begins : ¬ (t.kind = .newline ∨ t.kind = .comment)) :
    statements (α := α) bounds room declared (t :: rest) =
      terminated bounds room declared (t :: rest) >>= fun out =>
        (statements bounds room (out.1.declaredAfter declared) out.2).map (out.1 :: ·) := by
  have shorter : Gives _ (terminated (α := α) bounds room declared (t :: rest)) :=
    terminated_shorter room declared t rest
  rw [statements, if_neg begins]
  unfold terminated at shorter ⊢
  cases read : clause (α := α) bounds room declared (t :: rest) with
  | error e => rfl
  | ok out =>
    rw [read] at shorter
    rcases out with ⟨statement, after⟩
    cases ended : lineEnd bounds after with
    | error e => simp only [bind, Except.bind, ended]
    | ok after' =>
      have left : after' <:+ rest := shorter (statement, after') (by simp only [bind, Except.bind, ended])
      simp only [bind, Except.bind, ended, if_pos left.length_le]
      cases statements (α := α) bounds room (statement.declaredAfter declared) after' <;> rfl

end Shorter

namespace Walk

variable {α : Type} [Literal α] (limit : Limit) (tokens : List Token)

/-! ## Statements -/

section

variable (α)

def studyParameter (fuel : Nat) (header : Study) : Walk Study := do
  let name ← expect tokens .identifier .parameterName
  let _ ← expect tokens .equal .equalAfterParameterName
  if name.lexeme = "title" then
    let value ← expect tokens .string (.stringFor "title")
    return { header with title := value.content }
  else if name.lexeme = "shorttitle" then
    let value ← expect tokens .string (.stringFor "shorttitle")
    return { header with shortTitle := value.content }
  else if name.lexeme = "overlay" then
    let value ← expect tokens .boolean .truthValueForOverlay
    return { header with overlay := value.lexeme = "true" }
  else
    let _ ← expression (α := α) limit tokens fuel
    return header

def studyParameters : Nat → Study → Walk Study
  | 0, _ => spent
  | fuel + 1, header => do
      match ← accept? tokens (Token.ofKind? .comma) with
      | some _ =>
          let header ← studyParameter α limit tokens fuel header
          studyParameters fuel header
      | none => return header

def studyHeader (fuel : Nat) : Walk Study := do
  let _ ← expect tokens .leftParen .parenAfterStudy
  let t ← peek tokens
  let header ←
    if t.kind = .string then do
      let title ← advance tokens
      pure { title := title.content }
    else if t.kind = .identifier then studyParameter α limit tokens fuel {}
    else pure {}
  let header ← studyParameters α limit tokens fuel header
  let _ ← expect tokens .rightParen .parenAfterStudyParameters
  return header

end

def plotted (fuel : Nat) : Walk (Expr α) := do
  let _ ← expect tokens .leftParen .parenAfterPlot
  let value ← expression limit tokens fuel
  let _ ← expect tokens .rightParen .parenAfterPlotted
  return value

def declaration (fuel : Nat) (declared : List String) : Walk (Statement α) := do
  let name ← advance tokens
  let _ ← advance tokens
  let value ← expression limit tokens fuel
  return Statement.declaration declared name.lexeme value

def clause (fuel : Nat) (declared : List String) : Walk (Statement α) := do
  let t ← peek tokens
  if t.kind ≠ .identifier then
    throw ⟨.unexpectedToken t, t.line⟩
  else if t.lexeme = "study" then
    let _ ← advance tokens
    let header ← studyHeader α limit tokens fuel
    return .study header
  else
    let following ← peekNext tokens
    if following.kind = .equal then
      declaration limit tokens fuel declared
    else if t.lexeme = "plot" then
      let _ ← advance tokens
      let value ← plotted limit tokens fuel
      return .plot value
    else
      throw ⟨.expectedEqual t.lexeme, following.line⟩

def lineEnd : Walk Unit := do
  match ← accept? tokens (Token.ofKind? .newline) with
  | some _ => return ()
  | none =>
      let t ← peek tokens
      if t.kind = .comment ∨ t.kind = .endOfScript then return ()
      else throw ⟨.expected .newlineAfterStatement t, t.line⟩

def statement (fuel : Nat) (declared : List String) : Walk (Statement α) := do
  let statement ← clause limit tokens fuel declared
  lineEnd tokens
  return statement

/-- The statements up to the end of the script, behind those that have been read. -/
def script : Nat → List String → List (Statement α) → Walk (List (Statement α))
  | 0, _, _ => spent
  | fuel + 1, declared, before => do
      let t ← peek tokens
      if t.kind = .endOfScript then
        return before
      else
        match ← accept? tokens Token.between? with
        | some _ => script fuel declared before
        | none =>
            let statement ← statement limit tokens fuel declared
            script fuel (statement.declaredAfter declared) (before ++ [statement])

section Mirroring

variable {limit tokens} {ahead : List Token} {last : Token} (marked : Marked tokens ahead last) (room : Nat)
include marked

theorem studyParameter_mirrors (header : Study) (rest : List Token) :
    Mirrors limit ahead (fun _ => True) 1 room rest (fun fuel => studyParameter α limit tokens fuel header)
      (Statement.studyParameter (α := α) ⟨limit, last.line⟩ room header rest) := by
  unfold studyParameter Statement.studyParameter
  refine (Mirrors.expect marked (by decide) _).bind fun name rest => ?_
  refine (Mirrors.expect marked (by decide) _).bind fun equal rest => ?_
  dsimp only
  split
  · exact (Mirrors.expect marked (by decide) _).bind fun value rest => .ok _
  split
  · exact (Mirrors.expect marked (by decide) _).bind fun value rest => .ok _
  split
  · exact (Mirrors.expect marked (by decide) _).bind fun value rest => .ok _
  · exact (expression_mirrors marked room rest).bind fun value rest => .ok _

theorem studyParameters_mirrors (header : Study) (rest : List Token) :
    Mirrors limit ahead (fun _ => True) 1 room rest (fun fuel => studyParameters α limit tokens fuel header)
      (Statement.studyParameters (α := α) ⟨limit, last.line⟩ room header rest) := by
  induction header, rest using Statement.studyParameters.induct with
  | case1 header =>
    rw [Statement.studyParameters]
    refine .succ ?_
    simp only [studyParameters]
    exact .pass marked (Token.ofKind?_of_end marked.isEnd (by decide)) (.ok header)
  | case2 header t rest isComma ih =>
    rw [Statement.studyParameters, if_pos isComma]
    refine .succ ?_
    simp only [studyParameters]
    refine .accept marked (Token.ofKind?_of_eq isComma) ?_
    refine (studyParameter_mirrors marked room header rest).relaxed.bindWhole fun header' after read => ?_
    have fewer : after.length < rest.length := Statement.studyParameter_shorter room header rest _ read
    dsimp only
    rw [if_pos fewer]
    exact (ih header' after fewer).relaxed
  | case3 header t rest other =>
    rw [Statement.studyParameters, if_neg other]
    refine .succ ?_
    simp only [studyParameters]
    exact .pass marked (Token.ofKind?_of_ne other) (.ok header)

theorem studyHeader_mirrors (rest : List Token) :
    Mirrors limit ahead (fun _ => True) 1 room rest (studyHeader α limit tokens)
      (Statement.studyHeader (α := α) ⟨limit, last.line⟩ room rest) := by
  have ending (header : Study) (rest : List Token) :
      Mirrors limit ahead (fun _ => True) 1 room rest
        (fun fuel => studyParameters α limit tokens fuel header >>= fun header =>
          expect tokens .rightParen .parenAfterStudyParameters >>= fun _ => pure header)
        (Statement.studyEnding (α := α) ⟨limit, last.line⟩ room header rest) :=
    (studyParameters_mirrors marked room header rest).bind fun header _ => .followedBy marked (by decide) _ header
  unfold studyHeader Statement.studyHeader
  refine (Mirrors.expect marked (by decide) _).bind fun opening rest => .peek marked ?_
  cases rest with
  | nil =>
    have isEnd : ([].headD last).kind = .endOfScript := marked.isEnd
    rw [isEnd]
    exact ending {} []
  | cons t rest =>
    rw [List.headD_cons]
    dsimp only
    split
    · exact .advance marked (ending _ rest).relaxed
    split
    · exact (studyParameter_mirrors marked room {} (t :: rest)).bind fun header rest => ending header rest
    · exact ending {} (t :: rest)

theorem plotted_mirrors (rest : List Token) :
    Mirrors limit ahead (fun _ => True) 1 room rest (plotted (α := α) limit tokens)
      (Statement.plotted ⟨limit, last.line⟩ room rest) := by
  unfold plotted Statement.plotted
  refine (Mirrors.expect marked (by decide) _).bind fun _ rest => ?_
  refine (expression_mirrors marked room rest).bind fun value rest => ?_
  exact .followedBy marked (by decide) _ value

theorem clause_mirrors (declared : List String) (rest : List Token) :
    Mirrors limit ahead (fun _ => True) 1 room rest (fun fuel => clause (α := α) limit tokens fuel declared)
      (Statement.clause ⟨limit, last.line⟩ room declared rest) := by
  unfold clause
  refine .peek marked ?_
  cases rest with
  | nil =>
    have isEnd : ([].headD last).kind ≠ .identifier := by simp [marked.isEnd]
    simp only [if_pos isEnd]
    rw [Statement.clause]
    exact .fail marked [] SyntaxError.Cause.text_unexpectedToken
  | cons t rest =>
    rw [List.headD_cons, Statement.clause]
    by_cases other : t.kind ≠ .identifier
    · simp only [if_pos other]
      exact .fail marked (t :: rest) SyntaxError.Cause.text_unexpectedToken
    simp only [if_neg other]
    by_cases isStudy : t.lexeme = "study"
    · simp only [if_pos isStudy]
      refine .advance marked ?_
      exact (studyHeader_mirrors marked room rest).relaxed.bind fun header _ => .ok _
    simp only [if_neg isStudy]
    refine .peekNext marked ?_
    rw [marked.kind_headD limit]
    split
    · next isEqual =>
      cases rest with
      | nil => cases isEqual
      | cons equal rest =>
        refine .advance marked (.advance marked ?_)
        exact (expression_mirrors marked room rest).relaxed.relaxed.bind fun value rest => .ok _
    split
    · refine .advance marked ?_
      exact (plotted_mirrors marked room rest).relaxed.bind fun value rest => .ok _
    · cases rest <;> exact .error ⟨rfl, rfl⟩

theorem lineEnd_mirrors (rest : List Token) :
    Mirrors limit ahead (fun _ => True) 1 room rest (fun _ => lineEnd tokens)
      ((Statement.lineEnd ⟨limit, last.line⟩ rest).map fun rest => ((), rest)) := by
  unfold lineEnd Statement.lineEnd
  cases rest with
  | nil =>
    refine .pass marked (Token.ofKind?_of_end marked.isEnd (by decide)) (.peek marked ?_)
    rw [if_pos (.inr marked.isEnd)]
    exact .ok ()
  | cons t rest =>
    refine .ofHead marked fun inside => ?_
    dsimp only
    split
    · next breaks => exact .accept marked (Token.ofKind?_of_eq breaks) (.ok ())
    next goesOn =>
    refine .pass marked (Token.ofKind?_of_ne goesOn) (.peek marked ?_)
    rw [List.headD_cons]
    by_cases isComment : t.kind = .comment
    · rw [if_pos isComment, if_pos (.inl isComment)]
      exact .ok ()
    · rw [if_neg isComment, if_neg (not_or.mpr ⟨isComment, inside⟩)]
      exact .fail marked (t :: rest) (SyntaxError.Cause.text_expected _)

theorem statement_mirrors (declared : List String) (rest : List Token) :
    Mirrors limit ahead (fun _ => True) 1 room rest (fun fuel => statement (α := α) limit tokens fuel declared)
      (Statement.terminated ⟨limit, last.line⟩ room declared rest) := by
  unfold statement Statement.terminated
  refine (clause_mirrors marked room declared rest).bind fun statement rest => ?_
  have ends : Mirrors limit ahead (fun _ => True) 1 room rest (fun _ => lineEnd tokens >>= fun _ => pure statement)
      ((Statement.lineEnd ⟨limit, last.line⟩ rest).map (fun rest => ((), rest)) >>= fun out =>
        .ok (statement, out.2)) :=
    (lineEnd_mirrors marked room rest).bind fun _ rest => .ok statement
  dsimp only
  cases ended : Statement.lineEnd ⟨limit, last.line⟩ rest with
  | error e => rwa [ended] at ends
  | ok after => rwa [ended] at ends

theorem script_mirrors (declared : List String) (rest : List Token) (before : List (Statement α)) :
    Mirrors limit ahead (fun _ => True) 1 room rest (fun fuel => script limit tokens fuel declared before)
      ((Statement.statements ⟨limit, last.line⟩ room declared rest).map fun further => (before ++ further, [])) := by
  induction declared, rest using Statement.statements.induct (α := α) generalizing before with
  | case1 declared =>
    rw [Statement.statements]
    refine .succ ?_
    simp only [script]
    refine .peek marked ?_
    rw [List.headD_nil]
    simp only [if_pos marked.isEnd]
    simpa only [Except.map, List.append_nil] using Mirrors.ok before
  | case2 declared t rest skipped ih =>
    rw [Statement.statements, if_pos skipped]
    refine .succ (.ofHead marked fun inside => ?_)
    simp only [script]
    refine .peek marked ?_
    rw [List.headD_cons]
    simp only [if_neg inside]
    exact .accept marked (if_pos skipped) (ih before).relaxed
  | case3 declared t rest begins ih =>
    rw [Statement.statements_cons room declared rest begins]
    refine .succ (.ofHead marked fun inside => ?_)
    simp only [script]
    refine .peek marked ?_
    rw [List.headD_cons]
    simp only [if_neg inside]
    refine .pass marked (if_neg begins) ?_
    refine (statement_mirrors marked room declared (t :: rest)).bindMapped fun statement after read => ?_
    have left : after <:+ rest := Statement.terminated_shorter room declared t rest _ read
    have further := ih statement after left.length_le (before ++ [statement])
    dsimp only
    cases parsed : Statement.statements (α := α) ⟨limit, last.line⟩ room (statement.declaredAfter declared) after with
    | error e =>
      rw [parsed] at further
      exact further
    | ok statements =>
      rw [parsed] at further
      simp only [Except.map, List.append_assoc, List.singleton_append] at further
      exact further

end Mirroring

end Walk

/-! ## The end of the script -/

/-- The tokens with the end of the script behind them, unless it stands there. -/
def endMarked (tokens : List Token) : List Token :=
  match tokens.getLast? with
  | some t => if t.kind = .endOfScript then tokens else tokens ++ [⟨.endOfScript, "", t.line⟩]
  | none => [⟨.endOfScript, "", 1⟩]

theorem endMarked_eq (tokens : List Token) : endMarked tokens = tokens ∨ ∃ t, endMarked tokens = tokens ++ [t] := by
  unfold endMarked
  split
  · split
    · exact .inl rfl
    · exact .inr ⟨_, rfl⟩
  · next none => exact .inr ⟨_, by rw [List.getLast?_eq_none_iff.mp none, List.nil_append]⟩

/-- The position of the first token that ends the script. -/
def endPosition (tokens : List Token) : Nat := tokens.findIdx (·.kind = .endOfScript)

theorem Marked.endPosition_eq {tokens ahead : List Token} {last : Token} (marked : Marked tokens ahead last) :
    endPosition tokens = ahead.length := by
  rcases marked.splits with ⟨behind, rfl⟩
  have noEnd : ∀ t ∈ ahead, decide (t.kind = .endOfScript) = false := fun t mem => decide_eq_false (marked.noEnd t mem)
  have isEnd : decide (last.kind = .endOfScript) = true := decide_eq_true marked.isEnd
  rw [endPosition, List.findIdx_append, List.findIdx_eq_length.mpr noEnd, if_neg (Nat.lt_irrefl _), List.findIdx_cons,
    isEnd, cond_true, Nat.zero_add]

theorem exists_marked (tokens : List Token) :
    ∃ last, Marked (endMarked tokens) (tokens.takeWhile (·.kind ≠ .endOfScript)) last ∧
      last.line = lastLine tokens := by
  cases found : tokens.find? (·.kind = .endOfScript) with
  | some last =>
    rcases List.find?_eq_some_iff_append.mp found with ⟨isEnd, ahead, behind, rfl, noEnd⟩
    have inside : ∀ t ∈ ahead, decide (t.kind ≠ .endOfScript) = true := fun t mem => by simpa using noEnd t mem
    have split : (ahead ++ last :: behind).takeWhile (·.kind ≠ .endOfScript) = ahead := by
      rw [List.takeWhile_append_of_pos inside, List.takeWhile_cons_of_neg (by simpa using isEnd), List.append_nil]
    refine ⟨last, ⟨?_, of_decide_eq_true isEnd, fun t mem => of_decide_eq_true (inside t (split ▸ mem))⟩, ?_⟩
    · rw [split]
      rcases endMarked_eq (ahead ++ last :: behind) with same | ⟨t, same⟩
      · exact ⟨behind, same⟩
      · exact ⟨behind ++ [t], by rw [same, List.append_assoc, List.cons_append]⟩
    · rw [lastLine, found]
  | none =>
    have inside : ∀ t ∈ tokens, decide (t.kind ≠ .endOfScript) = true := fun t mem => by
      simpa using List.find?_eq_none.mp found t mem
    have whole : tokens.takeWhile (·.kind ≠ .endOfScript) = tokens := by
      rw [← List.append_nil tokens, List.takeWhile_append_of_pos inside, List.takeWhile_nil]
    rw [whole, lastLine, found]
    refine ⟨⟨.endOfScript, "", (tokens.getLast?.map Token.line).getD 1⟩, ⟨⟨[], ?_⟩, rfl, fun t mem => ?_⟩, rfl⟩
    · cases ends : tokens.getLast? with
      | none =>
        rw [endMarked, ends, List.getLast?_eq_none_iff.mp ends]
        rfl
      | some t =>
        have goesOn : t.kind ≠ .endOfScript := of_decide_eq_true (inside t (List.mem_of_getLast? ends))
        rw [endMarked, ends]
        exact if_neg goesOn
    · exact of_decide_eq_true (inside t mem)

/-- The same result, or the same report. -/
def SameResult {β : Type} : Except SyntaxError β → Except SyntaxError β → Prop
  | .ok x, .ok y => x = y
  | .error e, .error e' => e.SameReport e'
  | _, _ => False

namespace Walk

variable (α : Type) [Literal α] (limit : Limit) (tokens : List Token) (endsAt : Nat)

/-- Every part of the reader goes on, and one that reads a statement or what stands alone goes on by a token at least.
Those that begin within an expression rely on its level. -/
structure EachProgresses : Prop where
  script : ∀ declared before,
    Progresses limit endsAt (fun _ => True) 0 fun fuel => script (α := α) limit tokens fuel declared before
  statement : ∀ declared,
    Progresses limit endsAt (fun _ => True) 1 fun fuel => statement (α := α) limit tokens fuel declared
  lineEnd : Progresses limit endsAt (fun _ => True) 0 fun _ => lineEnd tokens
  studyHeader : Progresses limit endsAt (fun _ => True) 0 (studyHeader α limit tokens)
  studyParameter : ∀ header,
    Progresses limit endsAt (fun _ => True) 0 fun fuel => studyParameter α limit tokens fuel header
  declaration : ∀ declared,
    Progresses limit endsAt (fun _ => True) 0 fun fuel => declaration (α := α) limit tokens fuel declared
  plotted : Progresses limit endsAt (fun _ => True) 0 (plotted (α := α) limit tokens)
  expression : Progresses limit endsAt (fun _ => True) 0 (expression (α := α) limit tokens)
  chained : ∀ tier,
    Progresses limit endsAt (limit.allows · = true) 0 fun fuel => chained (α := α) limit tokens fuel tier
  signed : Progresses limit endsAt (limit.allows · = true) 0 (signed (α := α) limit tokens)
  suffixed : Progresses limit endsAt (limit.allows · = true) 0 (suffixed (α := α) limit tokens)
  call : ∀ e opening,
    Progresses limit endsAt (limit.allows · = true) 0 fun fuel => call (α := α) limit tokens fuel e opening
  primary : Progresses limit endsAt (limit.allows · = true) 1 (primary (α := α) limit tokens)

variable {α limit tokens} {ahead : List Token} {last : Token}

theorem eachProgresses (marked : Marked tokens ahead last) : EachProgresses α limit tokens ahead.length := by
  let bounds : Bounds := ⟨limit, last.line⟩
  have mirrors : (mirroring α limit tokens ahead).Holds bounds := mirroring_holds marked
  rcases mirrors with ⟨expression, chained, -, -, signed, suffixed, -, arguments, primary⟩
  dsimp only at expression chained signed suffixed arguments primary
  have reports := Expr.reporting_holds (α := α) bounds
  have fewer {β : Type} {rest : List Token} {result : Except SyntaxError (β × List Token)}
      (reports : Reports α bounds rest result) : Gives (fun out => out.2.length + 0 ≤ rest.length) result :=
    reports.gives.mono fun _ left => left.length_le
  have expression := Progresses.of_mirrors expression fun room rest => fewer (reports.expression room rest)
  have arguments := Progresses.of_mirrors arguments fun room rest => fewer (reports.arguments room rest)
  constructor
  case script =>
    intro declared before
    refine .of_mirrors (fun room rest => script_mirrors marked room declared rest before) fun room rest => ?_
    exact (Gives.trivial _).map fun _ _ => Nat.zero_le _
  case statement =>
    intro declared
    refine .of_mirrors (fun room rest => statement_mirrors marked room declared rest) fun room rest => ?_
    cases rest with
    | nil => exact .error _
    | cons t rest =>
      exact (Statement.terminated_shorter room declared t rest).mono fun _ left => Nat.succ_le_succ left.length_le
  case lineEnd =>
    refine .of_mirrors (fun room rest => lineEnd_mirrors marked room rest) fun room rest => ?_
    exact (Statement.lineEnd_reports (α := α) rest).gives.map fun _ left => left.length_le
  case studyHeader =>
    exact .of_mirrors (studyHeader_mirrors marked) fun room rest => fewer (Statement.studyHeader_reports room rest)
  case studyParameter =>
    intro header
    refine .of_mirrors (fun room rest => studyParameter_mirrors marked room header rest) fun room rest => ?_
    exact fewer (Statement.studyParameter_reports room header rest)
  case declaration =>
    exact fun declared => .bind (.advance marked) fun name => .bind (.advance marked) fun _ =>
      expression.bind fun value => .pure _
  case plotted =>
    exact .of_mirrors (plotted_mirrors marked) fun room rest => fewer (Statement.plotted_reports room rest)
  case expression => exact expression
  case chained =>
    exact fun tier => .of_mirrors (chained tier) fun room rest => fewer (reports.chained tier room rest)
  case signed => exact .of_mirrors signed fun room rest => fewer (reports.signed room rest)
  case suffixed => exact .of_mirrors suffixed fun room rest => fewer (reports.suffixed room rest)
  case call =>
    intro e opening
    unfold call called
    refine arguments.bind fun arguments => (show Progresses limit ahead.length (limit.allows · = true) 0 _ from ?_)
    cases e.name? with
    | none => exact .throw _
    | some function => exact .pure _
  case primary => exact .of_mirrors primary fun room rest => Expr.primary_shorter room rest

end Walk

theorem Walk.affords_room (limit : Limit) (most : Nat) : Affords limit 0 (limit.room most) most := by
  intro levels pos within
  rw [Nat.zero_add]
  refine ⟨fun allowed => Limit.le_room_of_allows allowed within, fun le => ?_⟩
  rcases limit.room_eq_zero_or_allows most with none | allowed
  · omega
  · exact Limit.allows_of_le allowed le

/-- Reading by position ends on every list of tokens, with the result of the parser. It never goes beyond the first end
of the script, reads operands only at levels that are allowed, and each part of it goes on. -/
theorem parsing_progresses {α : Type} [Literal α] (limit : Limit) (tokens : List Token) :
    let marked := endMarked tokens
    let endsAt := endPosition marked
    Walk.EachProgresses α limit marked endsAt ∧
    ∃ result after, Walk.Ends (fun fuel => Walk.script (α := α) limit marked fuel [] []) {} (result, after) ∧
      SameResult result (parseTokens limit tokens) ∧ after.position ≤ endsAt ∧
      (∀ n ∈ after.operands, limit.allows n = true) ∧
      ∀ script, result = .ok script → after.position = endsAt ∧ after.depth = 0 := by
  intro marked endsAt
  rcases exists_marked tokens with ⟨last, isMarked, line⟩
  have endsAt_eq : endsAt = _ := isMarked.endPosition_eq
  rw [endsAt_eq]
  refine ⟨Walk.eachProgresses isMarked, ?_⟩
  let ahead := tokens.takeWhile (·.kind ≠ .endOfScript)
  have follows : Walk.Follows limit ahead True {} (fun fuel => Walk.script (α := α) limit marked fuel [] []) _ :=
    Walk.script_mirrors isMarked (limit.room (ahead.length + 1)) [] ahead [] {} ⟨Nat.zero_le _, rfl⟩
      (Walk.affords_room limit (ahead.length + 1))
  have parses : parseTokens (α := α) limit tokens =
      Statement.statements ⟨limit, last.line⟩ (limit.room (ahead.length + 1)) [] ahead := by
    rw [parseTokens, line]
  rw [← parses] at follows
  cases parsed : parseTokens (α := α) limit tokens with
  | error e =>
    rw [parsed] at follows
    rcases follows with ⟨e', after, ran, same, within, passes⟩
    exact ⟨.error e', after, ran, same, within, passes.allowed rfl trivial, nofun⟩
  | ok script =>
    rw [parsed] at follows
    rcases follows with ⟨after, ran, atAfter, depth, passes⟩
    refine ⟨.ok ([] ++ script), after, ran, List.nil_append script, atAfter.within, passes.allowed rfl trivial, ?_⟩
    exact fun _ _ => ⟨atAfter.length_add, depth⟩

end IndicatorScript
