import IndicatorScript.Proofs.Decimal.Numeral
import IndicatorScript.Proofs.Statement.Reparsing
import IndicatorScript.Proofs.Statement.Study

/-!
# The expressions of a script

Every expression of a script is derived by tokens of the script (`parseTokens_derived`). The main statement,
`parse_declaration_iff`: what stands behind a name and an equals sign is read as a declaration exactly if it derives an
expression, of which there is at most one.
-/

namespace IndicatorScript

variable {α : Type} [Literal α]

namespace Statement

variable (bounds : Bounds) (room : Nat)

/-! ## What statements are read from -/

theorem expression_reads (tokens : List Token) :
    Reads (Derives (.chain .or)) tokens (Expr.expression (α := α) bounds room tokens) :=
  Expr.expression_reads bounds room tokens

/-- Each expression of a statement is derived by tokens. -/
def Derived (statement : Statement α) : Prop := ∀ e ∈ statement.expressions, ∃ tokens, Derives (.chain .or) tokens e

theorem derived_declaration {declared : List String} {name : String} {tokens : List Token} {value : Expr α}
    (derives : Derives (.chain .or) tokens value) : (declaration declared name value).Derived := by
  intro e mem
  unfold declaration at mem
  split at mem <;> rcases List.mem_singleton.mp mem with rfl <;> exact ⟨tokens, derives⟩

theorem plotted_reads (tokens : List Token) :
    Reads (fun _ value => (plot value).Derived) tokens (plotted (α := α) bounds room tokens) := by
  unfold plotted
  refine (Reads.expect bounds _ _ _).bind fun opening used rest _ => ?_
  refine (expression_reads bounds room rest).bind fun value inside rest derives => ?_
  refine (Reads.expect bounds _ _ _).bind fun closing used rest _ => .ok ?_
  intro e mem
  rcases List.mem_singleton.mp mem with rfl
  exact ⟨inside, derives⟩

theorem clause_reads (declared : List String) (tokens : List Token) :
    Reads (fun _ => Derived) tokens (clause (α := α) bounds room declared tokens) := by
  cases tokens with
  | nil =>
    rw [clause]
    exact .error _
  | cons t rest =>
    rw [clause]
    split
    · exact .error _
    split
    · exact .cons ((studyHeader_derived bounds room rest).bind fun header used rest _ => .ok fun e mem =>
        absurd mem List.not_mem_nil)
    split
    · next isEqual =>
      cases rest with
      | nil => cases isEqual
      | cons equal rest =>
        refine .cons (.cons ((expression_reads bounds room rest).bind fun value used rest derives => .ok ?_))
        exact derived_declaration derives
    split
    · exact .cons ((plotted_reads bounds room rest).bind fun value used rest derived => .ok derived)
    · exact .error _

theorem lineEnd_reads (tokens : List Token) :
    Gives (fun after => ∃ used, tokens = used ++ after) (lineEnd bounds tokens) := by
  cases tokens with
  | nil => exact .ok ⟨[], rfl⟩
  | cons t rest =>
    simp only [lineEnd]
    split
    · exact .ok ⟨[t], rfl⟩
    split
    · exact .ok ⟨[], rfl⟩
    · exact .error _

theorem statements_derived {declared : List String} {tokens : List Token} (spelled : Spelled tokens) :
    Gives (fun script => ∀ statement ∈ script, statement.Derived)
      (statements (α := α) bounds room declared tokens) := by
  induction declared, tokens using statements.induct (α := α) with
  | case1 declared =>
    rw [statements]
    exact .ok fun _ mem => absurd mem List.not_mem_nil
  | case2 declared t rest skipped ih =>
    rw [statements, if_pos skipped]
    exact ih spelled.tail
  | case3 declared t rest kept ih =>
    rw [statements, if_neg kept]
    refine (clause_reads bounds room declared (t :: rest) spelled).bind fun out read => ?_
    rcases out with ⟨statement, after⟩
    rcases read with ⟨used, same, derived⟩
    refine (lineEnd_reads bounds after).bind fun rest ended => ?_
    rcases ended with ⟨line, rfl⟩
    split
    · next shorter =>
      have restSpelled : Spelled rest := by
        rw [same] at spelled
        exact spelled.rest.rest
      refine (ih statement rest shorter restSpelled).bind fun further others => .ok fun other mem => ?_
      rcases List.mem_cons.mp mem with rfl | mem
      · exact derived
      · exact others other mem
    · refine .ok fun other mem => ?_
      rcases List.mem_singleton.mp mem with rfl
      exact derived

/-! ## Declarations -/

section Declaration

variable {declared : List String} {name equal : Token} {tokens : List Token} {script : List (Statement α)}

theorem clause_of_declaration (isName : name.kind = .identifier) (other : name.lexeme ≠ "study")
    (isEqual : equal.kind = .equal) :
    clause (α := α) bounds room declared (name :: equal :: tokens) = (do
      let (value, rest) ← Expr.expression bounds room tokens
      .ok (declaration declared name.lexeme value, rest)) := by
  rw [clause, if_neg (by simp [isName]), if_neg other, if_pos (by simp [Bounds.next, isEqual])]
  rfl

/-- A declaration is read if what stands behind the equals sign is read to its end. -/
theorem statements_declaration_iff (isName : name.kind = .identifier) (other : name.lexeme ≠ "study")
    (isEqual : equal.kind = .equal) (spelled : Spelled tokens)
    (oneLine : ∀ t ∈ tokens, t.kind ≠ .newline ∧ t.kind ≠ .comment) :
    statements bounds room declared (name :: equal :: tokens) = .ok script ↔
      ∃ e, Expr.expression bounds room tokens = .ok (e, []) ∧ script = [declaration declared name.lexeme e] := by
  rw [statements, if_neg (by simp [isName]), clause_of_declaration bounds room isName other isEqual]
  constructor
  · intro accepted
    rcases exists_of_bind_eq_ok accepted with ⟨⟨statement, after⟩, reached, accepted⟩
    rcases exists_of_bind_eq_ok reached with ⟨⟨value, rest⟩, reads, same⟩
    cases same
    rcases expression_reads bounds room tokens spelled _ reads with ⟨used, rfl, -⟩
    cases after with
    | nil =>
      refine ⟨value, reads, ?_⟩
      simp [lineEnd, statements, bind, Except.bind] at accepted
      exact accepted.symm
    | cons t rest =>
      rcases oneLine t (List.mem_append_right used List.mem_cons_self) with ⟨noLine, noComment⟩
      simp [lineEnd, noLine, noComment, Bounds.unexpected, Bounds.fail, bind, Except.bind] at accepted
  · rintro ⟨value, reads, rfl⟩
    rw [reads]
    simp [lineEnd, statements, bind, Except.bind]

end Declaration

end Statement

theorem parseTokens_derived {limit : Limit} {tokens : List Token}
    (spelled : Spelled (tokens.takeWhile (·.kind ≠ .endOfScript))) :
    Gives (fun script => ∀ statement ∈ script, statement.Derived) (parseTokens (α := α) limit tokens) :=
  Statement.statements_derived _ _ spelled

theorem parseTokens_declaration_iff {limit : Limit} {name equal last : Token} {tokens : List Token}
    (isName : name.kind = .identifier) (other : name.lexeme ≠ "study") (isEqual : equal.kind = .equal)
    (isLast : last.kind = .endOfScript) (spelled : Spelled tokens)
    (oneLine : ∀ t ∈ tokens, t.kind ≠ .newline ∧ t.kind ≠ .comment) (roomy : limit.allows tokens.length)
    (script : List (Statement α)) :
    parseTokens limit (name :: equal :: tokens ++ [last]) = .ok script ↔
      ∃ e, Derives (.chain .or) tokens e ∧ script = [.declaration [] name.lexeme e] := by
  have inside : ∀ t ∈ name :: equal :: tokens, decide (t.kind ≠ .endOfScript) = true := by
    intro t mem
    apply decide_eq_true
    rcases List.mem_cons.mp mem with rfl | mem
    · simp [isName]
    rcases List.mem_cons.mp mem with rfl | mem
    · simp [isEqual]
    · exact spelled.inside mem
  have ahead : (name :: equal :: tokens ++ [last]).takeWhile (·.kind ≠ .endOfScript) = name :: equal :: tokens := by
    rw [List.takeWhile_append_of_pos inside]
    simp [isLast]
  rw [parseTokens, ahead, Statement.statements_declaration_iff _ _ isName other isEqual spelled oneLine]
  have fits : tokens.length ≤ limit.room ((name :: equal :: tokens).length + 1) := by
    refine Limit.le_room_of_allows roomy ?_
    simp only [List.length_cons]
    omega
  constructor
  · rintro ⟨e, reads, rfl⟩
    rcases Statement.expression_reads _ _ tokens spelled _ reads with ⟨used, rfl, derives⟩
    rw [List.append_nil]
    exact ⟨e, derives, rfl⟩
  · rintro ⟨e, derives, rfl⟩
    have read : Expr.expression ⟨limit, lastLine (name :: equal :: tokens ++ [last])⟩
        (limit.room ((name :: equal :: tokens).length + 1)) (tokens ++ []) = .ok (e, []) :=
      (Expr.isRead_of_derives derives spelled).expression derives.length_pos fits (.nil _)
    rw [List.append_nil] at read
    exact ⟨e, read, rfl⟩

theorem parse_declaration_iff {limit : Limit} {name equal last : Token} {tokens : List Token}
    (isName : name.kind = .identifier) (other : name.lexeme ≠ "study") (isEqual : equal.kind = .equal)
    (isLast : last.kind = .endOfScript) (spelled : Spelled tokens)
    (oneLine : ∀ t ∈ tokens, t.kind ≠ .newline ∧ t.kind ≠ .comment) (roomy : limit.allows tokens.length) :
    (∀ script : List (Statement Float), parseTokens limit (name :: equal :: tokens ++ [last]) = .ok script ↔
      ∃ e, Derives (.chain .or) tokens e ∧ script = [.declaration [] name.lexeme e]) ∧
    (∀ e other : Expr Float, Derives (.chain .or) tokens e → Derives (.chain .or) tokens other → e = other) ∧
    ∀ t ∈ tokens, t.kind = .number → ∃ x : Float, Derives .primary [t] (.number x) := by
  refine ⟨parseTokens_declaration_iff isName other isEqual isLast spelled oneLine roomy,
    fun e other => Derives.unique spelled, fun t mem isNumber => ?_⟩
  have numeral := spelled t mem
  rw [Token.Word.Spelled, show t.word.kind = .number from isNumber] at numeral
  rcases Option.isSome_iff_exists.mp (Decimal.read?_isSome_of_isNumeral numeral) with ⟨x, reads⟩
  exact ⟨x, .number isNumber reads⟩

namespace Sample

def product : List Token :=
  [⟨.minus, "-", 1⟩, ⟨.identifier, "max", 1⟩, ⟨.leftParen, "(", 1⟩, ⟨.number, "1", 1⟩, ⟨.comma, ",", 1⟩,
    ⟨.identifier, "x", 1⟩, ⟨.leftBracket, "[", 1⟩, ⟨.number, "0", 1⟩, ⟨.rightBracket, "]", 1⟩, ⟨.rightParen, ")", 1⟩,
    ⟨.star, "*", 1⟩, ⟨.leftParen, "(", 1⟩, ⟨.identifier, "x", 1⟩, ⟨.less, "<", 1⟩, ⟨.identifier, "y", 1⟩,
    ⟨.rightParen, ")", 1⟩]

theorem product_spelled : Spelled product := by
  have isMax : Token.IsName "max".toList := by decide
  have isX : Token.IsName "x".toList := by decide
  have isY : Token.IsName "y".toList := by decide
  have isOne : Token.IsNumeral "1".toList :=
    ⟨['1'], [], ⟨by decide, List.all_eq_true.mp rfl⟩, List.all_eq_true.mp rfl, .inl ⟨rfl, rfl⟩⟩
  have isZero : Token.IsNumeral "0".toList := zero.isNumeral
  simp only [Spelled, product, List.forall_mem_cons]
  exact ⟨rfl, isMax, rfl, isOne, rfl, isX, rfl, isZero, rfl, rfl, rfl, rfl, isX, rfl, isY, rfl,
    fun t mem => absurd mem List.not_mem_nil⟩

end Sample

theorem parse_declaration_iff_sample :
    let limit := Limit.whole 16
    let name : Token := ⟨.identifier, "z", 1⟩
    let equal : Token := ⟨.equal, "=", 1⟩
    let last : Token := ⟨.endOfScript, "", 1⟩
    Spelled Sample.product ∧ (∀ t ∈ Sample.product, t.kind ≠ .newline ∧ t.kind ≠ .comment) ∧
      limit.allows Sample.product.length ∧
      (∀ script : List (Statement Float), parseTokens limit (name :: equal :: Sample.product ++ [last]) = .ok script ↔
        ∃ e, Derives (.chain .or) Sample.product e ∧ script = [.declaration [] "z" e]) ∧
      (∀ e other : Expr Float, Derives (.chain .or) Sample.product e → Derives (.chain .or) Sample.product other →
        e = other) ∧
      ∀ t ∈ Sample.product, t.kind = .number → ∃ x : Float, Derives .primary [t] (.number x) :=
  ⟨Sample.product_spelled, by decide, by decide,
    parse_declaration_iff rfl (by decide) rfl rfl Sample.product_spelled (by decide) (by decide)⟩

end IndicatorScript
