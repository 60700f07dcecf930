import IndicatorScript.Engine
import IndicatorScript.Proofs.Decimal.Numeral
import IndicatorScript.Proofs.Expr.Reports
import IndicatorScript.Proofs.Token.Lines
import IndicatorScript.Proofs.Token.Scan

/-!
# Compiling is total

Whatever the source is, compiling it gives a script or a fault of the source on one of its lines (`compile_total`). The
lexer makes only tokens that the parser can take: numbers that are numerals, strings within quotes, and the end of the
script once, behind all others.
-/

namespace IndicatorScript

variable {α : Type} [Literal α] {bounds : Bounds}

namespace Statement

variable (room : Nat)

theorem expression_reports (tokens : List Token) :
    Reports α bounds tokens (Expr.expression (α := α) bounds room tokens) :=
  Expr.expression_reports bounds room tokens

theorem studyParameter_reports (header : Study) (tokens : List Token) :
    Reports α bounds tokens (studyParameter (α := α) bounds room header tokens) := by
  unfold studyParameter
  refine (Reports.expect _ _ tokens).bind fun name rest => (Reports.expect _ _ rest).bind fun equal rest => ?_
  dsimp only
  split
  · exact (Reports.expect _ _ rest).bind fun value rest => .ok _
  split
  · exact (Reports.expect _ _ rest).bind fun value rest => .ok _
  split
  · exact (Reports.expect _ _ rest).bind fun value rest => .ok _
  · exact (expression_reports room rest).bind fun value rest => .ok _

theorem studyParameters_reports (header : Study) (tokens : List Token) :
    Reports α bounds tokens (studyParameters (α := α) bounds room header tokens) := by
  induction header, tokens using studyParameters.induct with
  | case1 header =>
    rw [studyParameters]
    exact .ok header
  | case2 header t rest isComma ih =>
    rw [studyParameters, if_pos isComma]
    refine .cons ((studyParameter_reports room header rest).bind fun header after => ?_)
    dsimp only
    split
    · next shorter => exact ih header after shorter
    · exact .ok header
  | case3 header t rest other =>
    rw [studyParameters, if_neg other]
    exact .ok header

theorem studyHeader_reports (tokens : List Token) :
    Reports α bounds tokens (studyHeader (α := α) bounds room tokens) := by
  have ending (header : Study) (tokens : List Token) : Reports α bounds tokens _ :=
    (studyParameters_reports (α := α) room header tokens).followed .rightParen .parenAfterStudyParameters
  unfold studyHeader
  refine (Reports.expect _ _ tokens).bind fun opening rest => ?_
  cases rest with
  | nil => exact ending {} []
  | cons t after =>
    dsimp only
    split
    · exact .cons (ending _ after)
    split
    · exact (studyParameter_reports room {} (t :: after)).bind ending
    · exact ending {} (t :: after)

theorem plotted_reports (tokens : List Token) : Reports α bounds tokens (plotted (α := α) bounds room tokens) := by
  unfold plotted
  exact (Reports.expect _ _ tokens).bind fun _ rest => (expression_reports room rest).followed _ _

theorem clause_reports (declared : List String) (tokens : List Token) :
    Reports α bounds tokens (clause (α := α) bounds room declared tokens) := by
  unfold clause
  split
  · exact .fail rfl
  next t rest =>
  split
  · exact .fail rfl
  split
  · exact .cons ((studyHeader_reports room rest).bind fun header rest => .ok _)
  split
  · have suffix := List.drop_suffix 1 rest
    exact .cons (((expression_reports room (rest.drop 1)).of_suffix suffix).bind fun value rest => .ok _)
  next noEqual =>
  split
  · exact .cons ((plotted_reports room rest).bind fun value rest => .ok _)
  · exact .cons (.fail noEqual)

theorem lineEnd_reports (tokens : List Token) :
    Yields (fun after => after <:+ tokens) (SyntaxError.Blames α bounds tokens) (lineEnd bounds tokens) := by
  unfold lineEnd
  split
  · exact List.suffix_refl []
  next t rest =>
  split
  · exact List.suffix_cons t rest
  split
  · exact List.suffix_refl (t :: rest)
  · exact ⟨t, .inl List.mem_cons_self, rfl, rfl⟩

theorem statements_reports (declared : List String) (tokens : List Token) :
    Yields (fun _ => True) (SyntaxError.Blames α bounds tokens)
      (statements (α := α) bounds room declared tokens) := by
  induction declared, tokens using statements.induct (α := α) with
  | case1 declared =>
    rw [statements]
    trivial
  | case2 declared t rest skipped ih =>
    rw [statements, if_pos skipped]
    exact ih.of_suffix (List.suffix_cons t rest)
  | case3 declared t rest kept ih =>
    rw [statements, if_neg kept]
    refine Yields.bind (clause_reports room declared (t :: rest)) fun out left => ?_
    refine ((lineEnd_reports out.2).of_suffix left).bind fun after ends => ?_
    split
    · next shorter => exact ((ih out.1 after shorter).of_suffix (ends.trans left)).bind fun _ _ => trivial
    · trivial

end Statement

theorem lastLine_append {ahead : List Token} {last : Token} (inside : ∀ t ∈ ahead, t.kind ≠ .endOfScript)
    (ends : last.kind = .endOfScript) : lastLine (ahead ++ [last]) = last.line := by
  have skipped : ahead.find? (·.kind = .endOfScript) = none := by simpa using inside
  have found : [last].find? (·.kind = .endOfScript) = some last := by simp [ends]
  rw [lastLine, List.find?_append, skipped, Option.none_or, found]

theorem parseTokens_append (limit : Limit) {ahead : List Token} {last : Token}
    (inside : ∀ t ∈ ahead, t.kind ≠ .endOfScript) (ends : last.kind = .endOfScript) :
    parseTokens (α := α) limit (ahead ++ [last]) =
      Statement.statements ⟨limit, last.line⟩ (limit.room (ahead.length + 1)) [] ahead := by
  have kept : ∀ t ∈ ahead, decide (t.kind ≠ .endOfScript) = true := fun t mem => decide_eq_true (inside t mem)
  have all : (ahead ++ [last]).takeWhile (·.kind ≠ .endOfScript) = ahead := by
    rw [List.takeWhile_append_of_pos kept]
    simp [ends]
  rw [parseTokens, all, lastLine_append inside ends]

theorem parseTokens_reports (limit : Limit) {ahead : List Token} {last : Token}
    (inside : ∀ t ∈ ahead, t.kind ≠ .endOfScript) (ends : last.kind = .endOfScript) :
    Yields (fun _ => True) (SyntaxError.Blames α ⟨limit, last.line⟩ ahead)
      (parseTokens (α := α) limit (ahead ++ [last])) := by
  rw [parseTokens_append limit inside ends]
  exact Statement.statements_reports _ [] ahead

/-! ## Tokens that the parser can take -/

def lineCount (source : String) : Int := 1 + source.toList.count '\n'

/-- What the parser relies on without looking: the end of the script is elsewhere, a number can be read, and a string
has two quotes that can be left out. -/
structure Token.Sound (t : Token) : Prop where
  inside : t.kind ≠ .endOfScript
  number : t.kind = .number → (Literal.read? (α := Float) t.lexeme).isSome = true
  quoted : t.kind = .string → t.lexeme.toList = '"' :: t.content.toList ++ ['"']

theorem Spelled.sound {tokens : List Token} (spelled : Spelled tokens) {t : Token} (mem : t ∈ tokens) : t.Sound := by
  have spells : t.kind.Spells t.lexeme.toList := spelled t mem
  refine ⟨spelled.inside mem, fun isNumber => ?_, fun isString => ?_⟩
  · rw [isNumber] at spells
    exact Decimal.read?_isSome_of_isNumeral spells
  · rw [isString] at spells
    rcases spells with ⟨content, -, written⟩
    simp [Token.content, written]

theorem tokenize_sound (source : String) :
    Yields
      (fun tokens => ∃ ahead, tokens = ahead ++ [⟨.endOfScript, "", lineCount source⟩] ∧
        ∀ t ∈ ahead, t.Sound ∧ 1 ≤ t.line ∧ t.line ≤ lineCount source)
      (fun e => e.cause.IsFault ∧ 1 ≤ e.line ∧ e.line ≤ lineCount source) (tokenize source) := by
  have lines := Token.scan_lines 1 source.toList
  have made := Token.scan_spelled 1 source.toList
  unfold tokenize
  cases read : Token.scan 1 source.toList with
  | error e =>
    rw [read] at lines
    exact lines
  | ok tokens =>
    rw [read] at lines
    rcases lines with ⟨ends, each⟩
    rcases made tokens read with ⟨ahead, last, rfl, spelled⟩
    rw [List.getLast?_concat, Option.some.injEq] at ends
    obtain rfl : last = lineCount source := congrArg Token.line ends
    exact ⟨ahead, rfl, fun t mem => ⟨spelled.sound mem, each t (List.mem_append_left _ mem)⟩⟩

theorem SyntaxError.Blames.isFault {limit : Limit} (ordered : ∀ typeName, limit ≠ .incomparable typeName) {last : Int}
    {tokens : List Token} (sound : ∀ t ∈ tokens, t.Sound) {e : SyntaxError}
    (blames : e.Blames Float ⟨limit, last⟩ tokens) : e.cause.IsFault := by
  rcases e with ⟨cause, line⟩
  rcases blames with ⟨t, ahead, -, fits⟩
  cases cause with
  | tooDeep limit =>
    obtain rfl : limit = _ := fits
    cases limit with
    | incomparable typeName => exact absurd rfl (ordered typeName)
    | _ => trivial
  | unreadableNumber lexeme =>
    rcases fits with ⟨isNumber, rfl, unreadable⟩
    rcases ahead with mem | rfl
    · have readable := (sound t mem).number isNumber
      rw [unreadable] at readable
      cases readable
    · cases isNumber
  | _ => trivial

theorem compile_reports {limits : Limits} (ordered : ∀ typeName, limits.nesting ≠ .incomparable typeName)
    (source : String) :
    Yields (fun _ => True) (fun e => e.cause.IsFault ∧ 1 ≤ e.line ∧ e.line ≤ lineCount source)
      (compile (α := Float) limits source) := by
  suffices parsed : Yields (fun _ => True) (fun e => e.cause.IsFault ∧ 1 ≤ e.line ∧ e.line ≤ lineCount source)
      (parse (α := Float) limits.nesting source) from parsed.map fun _ _ => trivial
  refine (tokenize_sound source).bind fun tokens made => ?_
  rcases made with ⟨ahead, rfl, each⟩
  have ends : (Token.mk .endOfScript "" (lineCount source)).kind = .endOfScript := rfl
  have reports := parseTokens_reports (α := Float) limits.nesting (fun t mem => (each t mem).1.inside) ends
  refine reports.mono (fun _ => id) fun e blames => ⟨blames.isFault ordered fun t mem => (each t mem).1, ?_⟩
  rcases blames with ⟨t, mem | rfl, line, -⟩
  · rw [line]
    exact (each t mem).2
  · have positive : 1 ≤ lineCount source := by
      unfold lineCount
      omega
    rw [line]
    exact ⟨positive, Int.le_refl _⟩

theorem compile_total (limits : Limits) (ordered : ∀ typeName, limits.nesting ≠ .incomparable typeName)
    (source : String) :
    ((∃ script : Script Float, compile limits source = .ok script) ∨
      ∃ e, compile (α := Float) limits source = .error e ∧ e.cause.IsFault ∧
        1 ≤ e.line ∧ e.line ≤ lineCount source) ∧
    (∀ tokens, tokenize source = .ok tokens →
      ∃ ahead, tokens = ahead ++ [⟨.endOfScript, "", lineCount source⟩] ∧ ∀ t ∈ ahead, t.Sound) ∧
    (∀ bounds room declared tokens (statement : Statement Float) rest,
      Statement.clause bounds room declared tokens = .ok (statement, rest) → rest <:+ tokens) ∧
    ∀ bounds room tokens (e : Expr Float) rest,
      Expr.expression bounds room tokens = .ok (e, rest) → rest <:+ tokens := by
  refine ⟨?_, fun tokens read => ?_, fun bounds room declared tokens statement rest => ?_,
    fun bounds room tokens e rest => ?_⟩
  · rcases compiled : compile (α := Float) limits source with e | script
    · exact .inr ⟨e, rfl, (compile_reports ordered source).fails compiled⟩
    · exact .inl ⟨script, rfl⟩
  · rcases (tokenize_sound source).gives tokens read with ⟨ahead, split, each⟩
    exact ⟨ahead, split, fun t mem => (each t mem).1⟩
  · exact (Statement.clause_reports room declared tokens).gives (statement, rest)
  · exact (Statement.expression_reports room tokens).gives (e, rest)

theorem compile_total_sample :
    (∀ typeName, Limit.whole 50 ≠ .incomparable typeName) ∧
    ∃ e, compile (α := Float) {} "plot(\n" = .error e ∧ e.cause.IsFault ∧ 1 ≤ e.line ∧ e.line ≤ 2 := by
  have ordered (typeName : String) : Limit.whole 50 ≠ .incomparable typeName := nofun
  have refused : (compile (α := Float) {} "plot(\n").isOk = false := by cbv
  rcases (compile_total {} ordered "plot(\n").1 with ⟨script, compiled⟩ | reported
  · rw [compiled] at refused
    cases refused
  · exact ⟨ordered, reported⟩

end IndicatorScript
