import IndicatorScript.Proofs.Expr.Placement
import IndicatorScript.Proofs.Statement.Reparsing
import IndicatorScript.Proofs.Statement.Totality

/-!
# Joined scripts

A source that compiles, a line break and another source make a script if and only if the other source does. Of what the
parser knows at the end of the first one, only the names declared as series reach the second one (`compile_joined`).
-/

namespace IndicatorScript

variable {α : Type}

namespace Statement

/-- The statement as it is where these names are series. -/
def reclassified (declared : List String) : Statement α → Statement α
  | .scalar name value | .series name value => declaration declared name value
  | .study header => .study header
  | .plot value => .plot value

/-- The statements as they are behind others, after which these names are series. -/
def reclassifiedAll (declared : List String) : List (Statement α) → List (Statement α)
  | [] => []
  | statement :: rest =>
      statement.reclassified declared ::
        reclassifiedAll ((statement.reclassified declared).declaredAfter declared) rest

theorem reclassified_declaration (declared declared' : List String) (name : String) (value : Expr α) :
    (declaration declared name value).reclassified declared' = declaration declared' name value := by
  unfold declaration
  split <;> rfl

theorem Classified.reclassified {declared : List String} {statement : Statement α}
    (classified : statement.Classified declared.contains) : statement.reclassified declared = statement := by
  cases statement with
  | study header => rfl
  | scalar name value => exact if_neg (Bool.eq_false_iff.mp classified)
  | series name value => exact if_pos classified
  | plot value => rfl

theorem IsTrace.reclassifiedAll {declared : List String} {trace : List (List String × Statement α)}
    (isTrace : IsTrace declared trace) :
    Statement.reclassifiedAll declared (trace.map Prod.snd) = trace.map Prod.snd := by
  induction trace generalizing declared with
  | nil => rfl
  | cons entry trace ih =>
    rcases entry with ⟨names, statement⟩
    rcases isTrace with ⟨rfl, classified, further⟩
    rw [List.map_cons, Statement.reclassifiedAll, classified.reclassified, ih further]

variable [Literal α]

theorem statements_reclassified (bounds : Bounds) (room : Nat) (declared : List String) (tokens : List Token) :
    Gives (fun script => reclassifiedAll declared script = script)
      (statements (α := α) bounds room declared tokens) := by
  rw [statements_eq_traced]
  exact (traced_isTrace bounds room declared tokens).map fun _ isTrace => isTrace.reclassifiedAll

theorem clause_shorter (bounds : Bounds) (room : Nat) (declared : List String) (t : Token) (rest : List Token) :
    Gives (fun out => out.2 <:+ rest) (clause (α := α) bounds room declared (t :: rest)) := by
  have kept (β : Type) {out : β × List Token} (left : out.2 <:+ rest) : out.2 <:+ rest := left
  rw [clause]
  split
  · exact .error _
  split
  · exact (studyHeader_reports room rest).gives.bind fun out left => .ok (kept _ left)
  split
  · have suffix := List.drop_suffix 1 rest
    exact (expression_reports room (rest.drop 1)).gives.bind fun out left => .ok (kept _ (left.trans suffix))
  split
  · exact (plotted_reports room rest).gives.bind fun out left => .ok (kept _ left)
  · exact .error _

/-! ## Statements in another place -/

section Placed

open Placement

variable (place : Placement) {room room' : Nat}

theorem expression_agrees {tokens rest : List Token} (fits : place.Fits (tokens.length + 1) room room')
    (left : rest <:+ tokens) :
    place.Agrees Eq rest (Expr.expression (α := α) place.bounds room rest)
      (Expr.expression place.elsewhere room' (place.tokens rest)) :=
  place.expression_placed room rest room' (fits.mono (Nat.succ_le_succ left.length_le))

theorem studyParameter_placed (header : Study) (tokens : List Token)
    (fits : place.Fits (tokens.length + 1) room room') :
    place.Agrees Eq tokens (studyParameter (α := α) place.bounds room header tokens)
      (studyParameter (α := α) place.elsewhere room' header (place.tokens tokens)) := by
  have given (kind : Token.Kind) (what : Expectation) (inner : kind.IsInner) (rest : List Token)
      (change : Token → Study) (kept : ∀ t : Token, change (t.moved place.lines) = change t) :
      place.Agrees Eq rest (place.bounds.expect kind what rest >>= fun out => .ok (change out.1, out.2))
        (place.elsewhere.expect kind what (place.tokens rest) >>= fun out => .ok (change out.1, out.2)) :=
    (Agrees.expect kind what inner).bind fun t t' rest same _ => .given (same ▸ (kept t).symm)
  unfold studyParameter
  refine (Agrees.expect .identifier .parameterName (by decide)).bind fun name name' rest same left => ?_
  obtain rfl : name' = name.moved place.lines := same
  refine (Agrees.expect .equal .equalAfterParameterName (by decide)).bind fun equal equal' rest' _ left' => ?_
  dsimp only
  rw [Token.lexeme_moved]
  by_cases isTitle : name.lexeme = "title"
  · rw [if_pos isTitle, if_pos isTitle]
    exact given .string (.stringFor "title") (by decide) rest' ({ header with title := ·.content }) fun _ => rfl
  rw [if_neg isTitle, if_neg isTitle]
  by_cases isShort : name.lexeme = "shorttitle"
  · rw [if_pos isShort, if_pos isShort]
    exact given .string (.stringFor "shorttitle") (by decide) rest' ({ header with shortTitle := ·.content }) fun _ => rfl
  rw [if_neg isShort, if_neg isShort]
  by_cases isOverlay : name.lexeme = "overlay"
  · rw [if_pos isOverlay, if_pos isOverlay]
    exact given .boolean .truthValueForOverlay (by decide) rest' ({ header with overlay := ·.lexeme = "true" }) fun _ => rfl
  rw [if_neg isOverlay, if_neg isOverlay]
  exact (expression_agrees place fits (left'.trans left)).bind fun _ _ _ _ _ => .given rfl

theorem studyParameters_placed (header : Study) (tokens : List Token)
    (fits : place.Fits (tokens.length + 1) room room') :
    place.Agrees Eq tokens (studyParameters (α := α) place.bounds room header tokens)
      (studyParameters (α := α) place.elsewhere room' header (place.tokens tokens)) := by
  induction header, tokens using studyParameters.induct with
  | case1 header =>
    have given : place.Agrees Eq [] (.ok (header, [])) (.ok (header, place.behind)) := .given rfl
    rw [studyParameters, tokens_nil]
    rcases place.behind_cases with behind | ⟨t, rest, behind, ends⟩ <;> rw [behind] at given ⊢ <;>
      rw [studyParameters]
    · exact given
    · rw [if_neg (by rcases ends with kind | kind <;> simp [kind])]
      exact given
  | case2 header t rest isComma ih =>
    have isComma' : (t.moved place.lines).kind = .comma := isComma
    have fits : place.Fits (rest.length + 1) room room' := fits.mono (Nat.le_succ _)
    rw [tokens_cons, studyParameters, studyParameters, if_pos isComma, if_pos isComma']
    refine .cons ((studyParameter_placed place header rest fits).bind fun header header' after same left => ?_)
    obtain rfl : header = header' := same
    have shorter : (place.tokens after).length < (place.tokens rest).length ↔ after.length < rest.length := by
      rw [length_tokens, length_tokens]
      omega
    simp only [shorter]
    by_cases less : after.length < rest.length
    · rw [if_pos less, if_pos less]
      exact ih header after less (fits.mono (Nat.succ_le_succ left.length_le))
    · rw [if_neg less, if_neg less]
      exact .given rfl
  | case3 header t rest other =>
    have other' : (t.moved place.lines).kind ≠ .comma := other
    rw [tokens_cons, studyParameters, studyParameters, if_neg other, if_neg other']
    exact .given rfl

theorem studyHeader_placed (tokens : List Token) (fits : place.Fits (tokens.length + 1) room room') :
    place.Agrees Eq tokens (studyHeader (α := α) place.bounds room tokens)
      (studyHeader (α := α) place.elsewhere room' (place.tokens tokens)) := by
  have ending (header : Study) (rest : List Token) (left : rest <:+ tokens) :
      place.Agrees Eq rest
        (studyParameters (α := α) place.bounds room header rest >>= fun out =>
          place.bounds.expect .rightParen .parenAfterStudyParameters out.2 >>= fun closing => .ok (out.1, closing.2))
        (studyParameters (α := α) place.elsewhere room' header (place.tokens rest) >>= fun out =>
          place.elsewhere.expect .rightParen .parenAfterStudyParameters out.2 >>= fun closing =>
            .ok (out.1, closing.2)) :=
    (studyParameters_placed place header rest (fits.mono (Nat.succ_le_succ left.length_le))).followed .rightParen
      .parenAfterStudyParameters (by decide)
  unfold studyHeader
  refine (Agrees.expect .leftParen .parenAfterStudy (by decide)).bind fun opening opening' rest _ left => ?_
  cases rest with
  | nil =>
    have ended := ending {} [] left
    rw [tokens_nil] at ended ⊢
    rcases place.behind_cases with behind | ⟨t, rest, behind, ends⟩ <;> rw [behind] at ended ⊢
    · exact ended
    · dsimp only
      rw [if_neg (by rcases ends with kind | kind <;> simp [kind]),
        if_neg (by rcases ends with kind | kind <;> simp [kind])]
      exact ended
  | cons t after =>
    rw [tokens_cons]
    dsimp only
    rw [Token.kind_moved, Token.content_moved]
    by_cases isString : t.kind = .string
    · rw [if_pos isString, if_pos isString]
      exact .cons (ending _ after ((List.suffix_cons t after).trans left))
    rw [if_neg isString, if_neg isString]
    by_cases isName : t.kind = .identifier
    · rw [if_pos isName, if_pos isName]
      refine Agrees.bind (studyParameter_placed place {} (t :: after)
        (fits.mono (Nat.succ_le_succ left.length_le))) fun header header' rest same left' => ?_
      obtain rfl : header = header' := same
      exact ending header rest (left'.trans left)
    rw [if_neg isName, if_neg isName]
    exact ending {} (t :: after) left

theorem plotted_placed (tokens : List Token) (fits : place.Fits (tokens.length + 1) room room') :
    place.Agrees Eq tokens (plotted (α := α) place.bounds room tokens)
      (plotted place.elsewhere room' (place.tokens tokens)) := by
  unfold plotted
  refine (Agrees.expect .leftParen .parenAfterPlot (by decide)).bind fun opening opening' rest _ left => ?_
  exact (expression_agrees place fits left).followed .rightParen .parenAfterPlotted (by decide)

theorem clause_placed (declared declared' : List String) (tokens : List Token)
    (fits : place.Fits tokens.length room room') :
    place.Agrees (fun statement statement' => statement' = statement.reclassified declared') tokens
      (clause (α := α) place.bounds room declared tokens)
      (clause place.elsewhere room' declared' (place.tokens tokens)) := by
  cases tokens with
  | nil =>
    have failing : place.Agrees (fun statement statement' : Statement α => statement' = statement.reclassified declared')
        [] (place.bounds.fail (.unexpectedToken (place.bounds.next [])) [])
        (place.elsewhere.fail (.unexpectedToken (place.elsewhere.next place.behind)) place.behind) :=
      .fail .unexpectedToken fun _ => rfl
    rw [tokens_nil, clause]
    rcases place.behind_cases with behind | ⟨t, rest, behind, ends⟩ <;> rw [behind] at failing ⊢ <;> rw [clause]
    · exact failing
    · rw [if_pos (by rcases ends with kind | kind <;> simp [kind])]
      exact failing
  | cons t rest =>
    have equals : (place.elsewhere.next (place.tokens rest)).kind = .equal ↔ (place.bounds.next rest).kind = .equal :=
      place.next_kind rest (by decide)
    rw [tokens_cons, clause, clause, Token.kind_moved, Token.lexeme_moved]
    by_cases isName : t.kind ≠ .identifier
    · rw [if_pos isName, if_pos isName]
      exact .error ⟨fun _ => rfl, fun _ => rfl⟩
    rw [if_neg isName, if_neg isName]
    by_cases isStudy : t.lexeme = "study"
    · rw [if_pos isStudy, if_pos isStudy]
      refine .cons ((studyHeader_placed place rest fits).bind fun header header' rest same _ => ?_)
      obtain rfl : header = header' := same
      exact .given rfl
    rw [if_neg isStudy, if_neg isStudy]
    by_cases isEqual : (place.bounds.next rest).kind = .equal
    · rw [if_pos isEqual, if_pos (equals.mpr isEqual)]
      cases rest with
      | nil => cases isEqual
      | cons equal rest =>
        have read := expression_agrees (α := α) place fits (List.suffix_cons equal rest)
        refine .cons (.cons (read.bind fun value value' rest same _ => ?_))
        obtain rfl : value = value' := same
        exact .given (reclassified_declaration declared declared' t.lexeme value).symm
    rw [if_neg isEqual, if_neg (mt equals.mp isEqual)]
    by_cases isPlot : t.lexeme = "plot"
    · rw [if_pos isPlot, if_pos isPlot]
      refine .cons ((plotted_placed place rest fits).bind fun value value' rest same _ => ?_)
      obtain rfl : value = value' := same
      exact .given rfl
    rw [if_neg isPlot, if_neg isPlot]
    exact .cons (.fail (fun _ => .expectedEqual t.lexeme) fun _ => rfl)

/-- These tokens are read like the others, and are no more. -/
structure ReadLike (α : Type) [Literal α] (bounds : Bounds) (tokens others : List Token) : Prop where
  length : tokens.length ≤ others.length
  statements : ∀ room declared, statements (α := α) bounds room declared tokens = statements bounds room declared others

theorem lineEnd_placed (tokens : List Token) :
    (∃ after after', lineEnd place.bounds tokens = .ok after ∧
        lineEnd place.elsewhere (place.tokens tokens) = .ok after' ∧ after <:+ tokens ∧
        ReadLike α place.elsewhere after' (place.tokens after)) ∨
      ∃ e e', lineEnd place.bounds tokens = .error e ∧ lineEnd place.elsewhere (place.tokens tokens) = .error e' ∧
        place.SameFault e e' := by
  cases tokens with
  | nil =>
    refine .inl ⟨[], ?_⟩
    rw [tokens_nil]
    rcases place.behind_cases with behind | ⟨t, rest, behind, isNewline | isComment⟩ <;> rw [behind]
    · exact ⟨[], rfl, rfl, List.suffix_refl [], Nat.le_refl _, fun _ _ => rfl⟩
    · refine ⟨rest, rfl, if_pos isNewline, List.suffix_refl [], Nat.le_succ _, fun room declared => ?_⟩
      rw [statements.eq_def _ _ _ (t :: rest)]
      exact (if_pos (.inl isNewline)).symm
    · refine ⟨t :: rest, rfl, ?_, List.suffix_refl [], Nat.le_refl _, fun _ _ => rfl⟩
      rw [lineEnd, if_neg (by simp [isComment]), if_pos isComment]
  | cons t rest =>
    rw [tokens_cons]
    by_cases isNewline : t.kind = .newline
    · exact .inl ⟨rest, place.tokens rest, if_pos isNewline, if_pos isNewline, List.suffix_cons t rest, Nat.le_refl _,
        fun _ _ => rfl⟩
    by_cases isComment : t.kind = .comment
    · refine .inl ⟨t :: rest, place.tokens (t :: rest), ?_, ?_, List.suffix_refl _, Nat.le_refl _, fun _ _ => rfl⟩
      · rw [lineEnd, if_neg isNewline, if_pos isComment]
      · rw [lineEnd, Token.kind_moved, if_neg isNewline, if_pos isComment, tokens_cons]
    · have failed (bounds : Bounds) (t : Token) (rest : List Token) (isNewline : t.kind ≠ .newline)
          (isComment : t.kind ≠ .comment) :
          lineEnd bounds (t :: rest) = .error ⟨.expected .newlineAfterStatement t, t.line⟩ := by
        rw [lineEnd, if_neg isNewline, if_neg isComment]
        rfl
      exact .inr ⟨_, _, failed _ t rest isNewline isComment, failed _ (t.moved place.lines) _ isNewline isComment,
        fun _ => rfl, fun _ => rfl⟩

/-- What the statements of tokens are in the other place, with those that follow there. -/
def Continues (room' : Nat) (declared' : List String) :
    Except SyntaxError (List (Statement α)) → Except SyntaxError (List (Statement α)) → Prop
  | .ok script, result =>
      result = (statements place.elsewhere room'
        (declaredAfterAll declared' (reclassifiedAll declared' script)) place.behind).map
          (reclassifiedAll declared' script ++ ·)
  | .error e, result =>
      (∃ e', result = .error e' ∧ place.SameFault e e') ∨
        place.bounds.limit ≠ place.elsewhere.limit ∧ ∃ line, e = ⟨.tooDeep place.bounds.limit, line⟩

theorem Continues.cons {declared' : List String} {statement : Statement α}
    {result result' : Except SyntaxError (List (Statement α))}
    (further : Continues place room' ((statement.reclassified declared').declaredAfter declared') result result') :
    Continues place room' declared' (result >>= fun script => .ok (statement :: script))
      (result' >>= fun script => .ok (statement.reclassified declared' :: script)) := by
  cases result with
  | ok script =>
    obtain rfl : result' = _ := further
    simp only [Continues, bind, Except.bind, reclassifiedAll, declaredAfterAll, List.foldl]
    generalize statements (α := α) place.elsewhere room' _ place.behind = behind
    cases behind <;> rfl
  | error e =>
    refine further.imp_left fun failed => ?_
    rcases failed with ⟨e', rfl, same⟩
    exact ⟨e', rfl, same⟩

theorem statements_placed (declared declared' : List String) (tokens : List Token)
    (fits : place.Fits tokens.length room room') :
    Continues place room' declared' (statements (α := α) place.bounds room declared tokens)
      (statements place.elsewhere room' declared' (place.tokens tokens)) := by
  induction declared, tokens using statements.induct (α := α) generalizing declared' with
  | case1 declared =>
    rw [statements, tokens_nil, Continues, reclassifiedAll, declaredAfterAll, List.foldl]
    cases statements (α := α) place.elsewhere room' declared' place.behind <;> rfl
  | case2 declared t rest skipped ih =>
    have skipped' : (t.moved place.lines).kind = .newline ∨ (t.moved place.lines).kind = .comment := skipped
    rw [tokens_cons, statements, statements, if_pos skipped, if_pos skipped']
    exact ih declared' (fits.mono (Nat.le_succ _))
  | case3 declared t rest kept ih =>
    have kept' : ¬((t.moved place.lines).kind = .newline ∨ (t.moved place.lines).kind = .comment) := kept
    have clauses := clause_placed (α := α) place declared declared' (t :: rest) fits
    have shorter := clause_shorter (α := α) place.bounds room declared t rest
    rw [tokens_cons] at clauses
    rw [tokens_cons, statements, statements, if_neg kept, if_neg kept']
    generalize clause (α := α) place.bounds room declared (t :: rest) = result at clauses shorter ⊢
    generalize clause (α := α) place.elsewhere room' declared' (t.moved place.lines :: place.tokens rest) = result'
      at clauses ⊢
    cases clauses with
    | error same => exact .inl ⟨_, rfl, same⟩
    | tooDeep other => exact .inr ⟨other, _, rfl⟩
    | @ok statement _ after same left =>
      obtain rfl := same
      have shorter : after <:+ rest := shorter _ rfl
      simp only [bind, Except.bind]
      rcases lineEnd_placed (α := α) place after with ⟨after, after', ends, ends', left, like⟩ |
        ⟨e, e', ends, ends', same⟩
      · have short : after.length ≤ rest.length := (left.trans shorter).length_le
        have short' : after'.length ≤ (place.tokens rest).length := by
          have := like.length
          rw [length_tokens] at this ⊢
          omega
        simp only [ends, ends']
        rw [if_pos short, if_pos short', like.statements]
        exact (ih statement after short _ (fits.mono (Nat.le_succ_of_le short))).cons
      · simp only [ends, ends']
        exact .inl ⟨e', rfl, same⟩

section Same

variable {place} {declared : List String} {tokens : List Token}

/-- Where the same names are series, the statements stay what they are. -/
theorem statements_continued (fits : place.Fits tokens.length room room') {script : List (Statement α)}
    (parsed : statements place.bounds room declared tokens = .ok script) :
    statements place.elsewhere room' declared (place.tokens tokens) =
      (statements place.elsewhere room' (declaredAfterAll declared script) place.behind).map (script ++ ·) := by
  have placed := statements_placed (α := α) place declared declared tokens fits
  have kept := statements_reclassified place.bounds room declared tokens script parsed
  rwa [parsed, Continues, kept] at placed

theorem statements_failed (fits : place.Fits tokens.length room room') {e : SyntaxError}
    (failed : statements (α := α) place.bounds room declared tokens = .error e) :
    (∃ e', statements (α := α) place.elsewhere room' declared (place.tokens tokens) = .error e' ∧
        place.SameFault e e') ∨
      place.bounds.limit ≠ place.elsewhere.limit ∧ ∃ line, e = ⟨.tooDeep place.bounds.limit, line⟩ := by
  have placed := statements_placed (α := α) place declared declared tokens fits
  rwa [failed] at placed

end Same

end Placed

end Statement

/-! ## Joined sources -/

theorem Limit.room_cases (limit : Limit) {most more : Nat} (le : most ≤ more) :
    most ≤ limit.room most ∧ most ≤ limit.room more ∨ limit.room most = limit.room more := by
  cases limit with
  | fraction bound =>
    by_cases allowed : (Limit.fraction bound).allows most = true
    · exact .inl ⟨Limit.le_room_of_allows allowed (Nat.le_refl most), Limit.le_room_of_allows allowed le⟩
    · obtain ⟨further, split⟩ := Nat.exists_eq_add_of_le (Nat.succ_le_succ le)
      have stopped : ((List.range (most + 1)).takeWhile (Limit.fraction bound).allows).length ≠
          (List.range (most + 1)).length := fun all => by
        have whole := (List.takeWhile_sublist _).eq_of_length all
        have kept := List.all_eq_true.mp
          (List.all_takeWhile (p := (Limit.fraction bound).allows) (l := List.range (most + 1)))
        rw [whole] at kept
        exact allowed (kept most (List.mem_range.mpr (Nat.lt_succ_self most)))
      right
      have longer : List.range (more + 1) = List.range (most + 1) ++ (List.range further).map (most + 1 + ·) := by
        rw [show more + 1 = most + 1 + further from split, List.range_add]
      rw [Limit.room, Limit.room, longer, List.takeWhile_append, if_neg stopped]
  | _ => exact .inr rfl

theorem Placement.fits_room (place : Placement) (limit : Limit) {count most more : Nat} (few : count ≤ most)
    (le : most ≤ more) : place.Fits count (limit.room most) (limit.room more) := by
  rcases limit.room_cases le with ⟨enough, enough'⟩ | same
  · exact .inl ⟨Nat.le_trans few enough, Nat.le_trans few enough'⟩
  · exact .inr ⟨Nat.le_of_eq same, fun _ => same⟩

variable [Literal α]

theorem parseTokens_joined {limit : Limit} {before ahead : List Token} {line last : Int} {script : List (Statement α)}
    (inside : ∀ t ∈ before, t.kind ≠ .endOfScript) (inside' : ∀ t ∈ ahead, t.kind ≠ .endOfScript)
    (parsed : parseTokens limit (before ++ [⟨.endOfScript, "", line⟩]) = .ok script) :
    parseTokens limit
        (before ++ ⟨.newline, "\n", line⟩ :: (ahead ++ [Token.mk .endOfScript "" last]).map (Token.moved line)) =
      ((parseTokens limit (ahead ++ [Token.mk .endOfScript "" last])).map fun further =>
        script ++ Statement.reclassifiedAll (Statement.declaredAfterAll [] script) further).mapError
          (SyntaxError.moved line) := by
  let newline : Token := ⟨.newline, "\n", line⟩
  let elsewhere : Bounds := ⟨limit, last + line⟩
  let more := newline :: ahead.map (Token.moved line)
  let room := limit.room ((before ++ more).length + 1)
  have together : before ++ newline :: (ahead ++ [Token.mk .endOfScript "" last]).map (Token.moved line) =
      (before ++ more) ++ [⟨.endOfScript, "", last + line⟩] := by
    simp [more, Token.moved]
  have inside'' : ∀ t ∈ before ++ more, t.kind ≠ .endOfScript := by
    intro t mem
    rcases List.mem_append.mp mem with mem | mem
    · exact inside t mem
    rcases List.mem_cons.mp mem with rfl | mem
    · simp [newline]
    rcases List.mem_map.mp mem with ⟨t, mem', rfl⟩
    exact inside' t mem'
  rw [parseTokens_append limit inside rfl] at parsed
  rw [together, parseTokens_append limit inside'' rfl, parseTokens_append limit inside' rfl]
  -- the statements of the first source, with those of the tokens behind them
  let front : Placement := ⟨⟨limit, line⟩, elsewhere, 0, more, by simp [more, newline]⟩
  have first : Statement.statements elsewhere room [] (before ++ more) =
      (Statement.statements elsewhere room (Statement.declaredAfterAll [] script) more).map (script ++ ·) := by
    have fits : front.Fits before.length (limit.room (before.length + 1)) room :=
      front.fits_room limit (Nat.le_succ _) (by simp)
    rw [← front.tokens_of_unmoved rfl]
    exact Statement.statements_continued fits parsed
  -- those of the second source, which end where it ends
  let back : Placement := ⟨⟨limit, last⟩, elsewhere, line, [], by simp⟩
  have second := Statement.statements_placed (α := α) back [] (Statement.declaredAfterAll [] script) ahead
    (back.fits_room limit (Nat.le_succ _) (show ahead.length + 1 ≤ (before ++ more).length + 1 by simp [more]; omega))
  have skipped : Statement.statements (α := α) elsewhere room (Statement.declaredAfterAll [] script) more =
      Statement.statements elsewhere room (Statement.declaredAfterAll [] script) (back.tokens ahead) := by
    rw [Statement.statements, if_pos (.inl rfl), Placement.tokens, List.append_nil]
  rw [first, skipped]
  cases parsed' : Statement.statements (α := α) ⟨limit, last⟩ (limit.room (ahead.length + 1)) [] ahead with
  | ok further =>
    rw [parsed', Statement.Continues] at second
    rw [second, Statement.statements]
    exact congrArg (fun further => Except.ok (script ++ further)) (List.append_nil _)
  | error e =>
    rw [parsed'] at second
    rcases second with ⟨e', failed, same⟩ | ⟨other, -⟩
    · rw [failed, same.whole rfl]
      rfl
    · exact absurd rfl other

theorem parse_joined {limit : Limit} {first : String} {script : List (Statement α)}
    (parsed : parse limit first = .ok script) (second : String) :
    parse limit (first ++ "\n" ++ second) =
      ((parse limit second).map fun further =>
        script ++ Statement.reclassifiedAll (Statement.declaredAfterAll [] script) further).mapError
          (SyntaxError.moved (lineCount first)) := by
  rcases exists_of_bind_eq_ok parsed with ⟨tokens, read, parsed⟩
  rcases tokenize_joined read second with ⟨before, rfl, joined⟩
  rcases (tokenize_sound first).gives _ read with ⟨ahead, same, sound⟩
  obtain rfl : before = ahead := List.append_cancel_right same
  rw [parse, joined, parse]
  cases read' : tokenize second with
  | error e => rfl
  | ok tokens =>
    rcases (tokenize_sound second).gives _ read' with ⟨ahead, rfl, sound'⟩
    exact parseTokens_joined (fun t mem => (sound t mem).1.inside) (fun t mem => (sound' t mem).1.inside) parsed

/-- The second source fails in the joined one as it fails alone, further down. Where it is a script, its statements
follow those of the first one, and only which declarations are series may change. -/
theorem compile_joined (limits : Limits) (first : String) {script : Script α}
    (compiled : compile limits first = .ok script) (second : String) :
    (∀ e, compile (α := α) limits second = .error e →
      ∃ e', compile (α := α) limits (first ++ "\n" ++ second) = .error e' ∧ e' = e.moved (lineCount first) ∧
        e'.cause.text = e.cause.text ∧ e'.line = e.line + 1 + first.toList.count '\n') ∧
    ∀ further, compile limits second = .ok further →
      compile limits (first ++ "\n" ++ second) =
        .ok ⟨script.statements ++
          Statement.reclassifiedAll (Statement.declaredAfterAll [] script.statements) further.statements⟩ := by
  rcases exists_of_map_eq_ok compiled with ⟨statements, parsed, rfl⟩
  have joined := parse_joined parsed second
  refine ⟨fun e failed => ?_, fun further compiled => ?_⟩
  · have failed := eq_error_of_map_eq_error failed
    refine ⟨e.moved (lineCount first), ?_, rfl, SyntaxError.Cause.text_moved _ _, ?_⟩
    · rw [compile, joined, failed]
      rfl
    · show e.line + lineCount first = _
      unfold lineCount
      omega
  · rcases exists_of_map_eq_ok compiled with ⟨further, parsed', rfl⟩
    rw [compile, joined, parsed']
    rfl

theorem compile_joined_sample :
    compile (α := Float) {} "a = b\n" = .ok ⟨[.scalar "a" (.name "b")]⟩ ∧
    (∃ e, compile (α := Float) {} "a = b\n\nplot(a\n" = .error e ∧ e.line = 3) ∧
    compile (α := Float) {} "a = b\n\nplot(a)" = .ok ⟨[.scalar "a" (.name "b"), .plot (.name "a")]⟩ := by
  have compiled : compile (α := Float) {} "a = b\n" = .ok ⟨[.scalar "a" (.name "b")]⟩ := by cbv
  have failed : compile (α := Float) {} "plot(a\n" =
      .error ⟨.expected .parenAfterPlotted ⟨.newline, "\n", 1⟩, 1⟩ := by cbv
  have alone : compile (α := Float) {} "plot(a)" = .ok ⟨[.plot (.name "a")]⟩ := by cbv
  refine ⟨compiled, ?_, (compile_joined {} "a = b\n" compiled "plot(a)").2 _ alone⟩
  rcases (compile_joined {} "a = b\n" compiled "plot(a\n").1 _ failed with ⟨e, joined, -, -, line⟩
  exact ⟨e, joined, line⟩

end IndicatorScript
