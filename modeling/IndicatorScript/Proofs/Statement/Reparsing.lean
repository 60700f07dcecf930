import IndicatorScript.Proofs.Decimal.Numeral
import IndicatorScript.Proofs.Expr.Reparsing
import IndicatorScript.Proofs.Statement.Classification

/-!
# Parsing printed scripts

A script is printed one statement to a line. The main statement, `parse_printed`: every script of the language is read
back as itself from its printed text, under every limit that allows as many levels as the text has tokens.
-/

namespace IndicatorScript

open Token (Word)

theorem Expr.isSeries_map {α β : Type} (f : α → β) (declared : String → Bool) (e : Expr α) :
    (e.map f).isSeries declared = e.isSeries declared := by
  induction e using Expr.induction with
  | number | text | boolean | name | index => rfl
  | call function arguments ih =>
    have any : ∀ rest : List (Expr α), (∀ e ∈ rest, (e.map f).isSeries declared = e.isSeries declared) →
        anySeries declared (mapAll f rest) = anySeries declared rest := by
      intro rest
      induction rest with
      | nil => intro _; rfl
      | cons e rest ihRest =>
        intro each
        rw [mapAll, anySeries, anySeries, each e List.mem_cons_self,
          ihRest fun e mem => each e (List.mem_cons_of_mem _ mem)]
    rw [map, isSeries, isSeries, any arguments ih]
  | binary left op right ihLeft ihRight => rw [map, isSeries, isSeries, ihLeft, ihRight]

namespace Statement

variable {α β : Type}

def map (f : α → β) : Statement α → Statement β
  | .study header => .study header
  | .scalar name value => .scalar name (value.map f)
  | .series name value => .series name (value.map f)
  | .plot value => .plot (value.map f)

def expressions : Statement α → List (Expr α)
  | .study _ => []
  | .scalar _ value | .series _ value | .plot value => [value]

/-! ## Printing -/

def quotedWord (s : String) : Word := ⟨.string, "\"" ++ s ++ "\""⟩

def booleanWord (b : Bool) : Word := ⟨.boolean, if b then "true" else "false"⟩

def parameterWords (name : String) (value : Word) : List Word :=
  [⟨.comma, ","⟩, ⟨.identifier, name⟩, ⟨.equal, "="⟩, value]

def words [Literal α] : Statement (Numeral α) → List Word
  | .study header =>
      ⟨.identifier, "study"⟩ :: ⟨.leftParen, "("⟩ ::
        (quotedWord header.title :: parameterWords "shorttitle" (quotedWord header.shortTitle) ++
          parameterWords "overlay" (booleanWord header.overlay)) ++ [⟨.rightParen, ")"⟩]
  | .scalar name value | .series name value => ⟨.identifier, name⟩ :: ⟨.equal, "="⟩ :: value.words
  | .plot value => ⟨.identifier, "plot"⟩ :: ⟨.leftParen, "("⟩ :: value.words ++ [⟨.rightParen, ")"⟩]

/-- Titles hold no quote, and no declared name is the word that begins a header. -/
def Printable [Literal α] : Statement (Numeral α) → Prop
  | .study header => '"' ∉ header.title.toList ∧ '"' ∉ header.shortTitle.toList
  | .scalar name value | .series name value => Token.IsName name.toList ∧ name ≠ "study" ∧ value.Printable
  | .plot value => value.Printable

/-- A list of statements that is a script, given the names declared as series before it. -/
def IsScript [Literal α] (declared : List String) : List (Statement (Numeral α)) → Prop
  | [] => True
  | statement :: rest =>
      statement.Printable ∧ statement.Classified declared.contains ∧ IsScript (statement.declaredAfter declared) rest

def scriptWords [Literal α] : List (Statement (Numeral α)) → List Word
  | [] => []
  | statement :: rest => statement.words ++ ⟨.newline, "\n"⟩ :: scriptWords rest

def printed [Literal α] (script : List (Statement (Numeral α))) : String :=
  String.ofList (Token.written (scriptWords script))

theorem declaredAfter_map (f : α → β) (declared : List String) (statement : Statement α) :
    (statement.map f).declaredAfter declared = statement.declaredAfter declared := by
  cases statement <;> rfl

theorem declaration_scalar {declared : List String} {name : String} {value : Expr α}
    (classified : (scalar name value).Classified declared.contains) :
    declaration declared name value = .scalar name value :=
  if_neg (Bool.eq_false_iff.mp classified)

theorem declaration_series {declared : List String} {name : String} {value : Expr α}
    (classified : (series name value).Classified declared.contains) :
    declaration declared name value = .series name value :=
  if_pos classified

theorem Classified.map {f : α → β} {isSeries : String → Bool} {statement : Statement α}
    (classified : statement.Classified isSeries) : (statement.map f).Classified isSeries := by
  cases statement with
  | study | plot => trivial
  | scalar name value => exact (value.isSeries_map f _).trans classified
  | series name value => exact (value.isSeries_map f _).trans classified

variable [Literal α]

theorem isName_of_mem {name : String} (mem : name ∈ ["study", "shorttitle", "overlay", "plot"]) :
    Token.IsName name.toList := by
  simp only [List.mem_cons, List.not_mem_nil, or_false] at mem
  obtain rfl | rfl | rfl | rfl := mem <;> decide

theorem parameterWords_spelled {name : String} (isParameter : name ∈ ["shorttitle", "overlay"]) {value : Word}
    (spelled : value.Spelled ∧ value.kind ≠ .comment) :
    ∀ w ∈ parameterWords name value, w.Spelled ∧ w.kind ≠ .comment := by
  intro w mem
  simp only [parameterWords, List.mem_cons, List.not_mem_nil, or_false] at mem
  obtain rfl | rfl | rfl | rfl := mem
  · exact ⟨rfl, by simp⟩
  · refine ⟨isName_of_mem ?_, by simp⟩
    simp only [List.mem_cons, List.not_mem_nil, or_false] at isParameter ⊢
    exact .inr (isParameter.imp_right .inl)
  · exact ⟨rfl, by simp⟩
  · exact spelled

theorem quotedWord_spelled {s : String} (closed : '"' ∉ s.toList) :
    (quotedWord s).Spelled ∧ (quotedWord s).kind ≠ .comment :=
  ⟨⟨s.toList, closed, by simp [quotedWord]⟩, by simp [quotedWord]⟩

theorem booleanWord_spelled (b : Bool) : (booleanWord b).Spelled ∧ (booleanWord b).kind ≠ .comment := by
  refine ⟨?_, by simp [booleanWord]⟩
  cases b
  · exact .inr rfl
  · exact .inl rfl

theorem words_spelled {statement : Statement (Numeral α)} (printable : statement.Printable) :
    ∀ w ∈ statement.words, w.Spelled ∧ w.kind ≠ .comment := by
  intro w mem
  cases statement with
  | study header =>
    simp only [words, List.cons_append, List.mem_cons, List.mem_append, List.not_mem_nil, or_false] at mem
    obtain rfl | rfl | rfl | (mem | mem) | rfl := mem
    · exact ⟨isName_of_mem (by simp), by simp⟩
    · exact ⟨rfl, by simp⟩
    · exact quotedWord_spelled printable.1
    · exact parameterWords_spelled (by simp) (quotedWord_spelled printable.2) w mem
    · exact parameterWords_spelled (by simp) (booleanWord_spelled header.overlay) w mem
    · exact ⟨rfl, by simp⟩
  | scalar name value | series name value =>
    simp only [words, List.mem_cons] at mem
    obtain rfl | rfl | mem := mem
    · exact ⟨printable.1, by simp⟩
    · exact ⟨rfl, by simp⟩
    · exact value.words_spelled printable.2.2 w mem
  | plot value =>
    simp only [words, List.cons_append, List.mem_cons, List.mem_append, List.not_mem_nil, or_false] at mem
    obtain rfl | rfl | mem | rfl := mem
    · exact ⟨isName_of_mem (by simp), by simp⟩
    · exact ⟨rfl, by simp⟩
    · exact value.words_spelled printable w mem
    · exact ⟨rfl, by simp⟩

theorem scriptWords_spelled {declared : List String} {script : List (Statement (Numeral α))}
    (isScript : IsScript declared script) : ∀ w ∈ scriptWords script, w.Spelled ∧ w.kind ≠ .comment := by
  induction script generalizing declared with
  | nil => intro w mem; cases mem
  | cons statement rest ih =>
    obtain ⟨printable, -, restIsScript⟩ := isScript
    intro w mem
    simp only [scriptWords, List.mem_append, List.mem_cons] at mem
    obtain mem | rfl | mem := mem
    · exact words_spelled printable w mem
    · exact ⟨rfl, by simp⟩
    · exact ih restIsScript w mem

/-! ## Parsing one statement -/

section Clause

variable {bounds : Bounds} {room : Nat}

theorem expect_cons {t : Token} {kind : Token.Kind} (same : t.kind = kind) (what : Expectation) (rest : List Token) :
    bounds.expect kind what (t :: rest) = .ok (t, rest) :=
  if_pos same

theorem parameter_of_words {tokens : List Token} {name : String} {value : Word}
    (printed : tokens.map Token.word = parameterWords name value) :
    ∃ comma n equal v, (∀ rest, tokens ++ rest = comma :: n :: equal :: v :: rest) ∧ comma.kind = .comma ∧
      n.kind = .identifier ∧ n.lexeme = name ∧ equal.kind = .equal ∧ v.kind = value.kind ∧ v.lexeme = value.lexeme := by
  obtain ⟨comma, after, rfl, isComma, within⟩ := List.map_eq_cons_iff.mp printed
  obtain ⟨n, after, rfl, isName, within⟩ := List.map_eq_cons_iff.mp within
  obtain ⟨equal, after, rfl, isEqual, within⟩ := List.map_eq_cons_iff.mp within
  obtain ⟨v, rfl, isValue⟩ := List.map_eq_singleton_iff.mp within
  exact ⟨comma, n, equal, v, fun rest => rfl, congrArg Word.kind isComma, congrArg Word.kind isName,
    congrArg Word.lexeme isName, congrArg Word.kind isEqual, congrArg Word.kind isValue, congrArg Word.lexeme isValue⟩

theorem studyParameters_shortTitle {tokens : List Token} {s : String}
    (printed : tokens.map Token.word = parameterWords "shorttitle" (quotedWord s)) (header : Study)
    (rest : List Token) :
    studyParameters (α := α) bounds room header (tokens ++ rest) =
      studyParameters (α := α) bounds room { header with shortTitle := s } rest := by
  obtain ⟨comma, n, equal, v, same, isComma, isName, name, isEqual, isValue, lexeme⟩ := parameter_of_words printed
  have isString : v.kind = .string := isValue
  have content : v.content = s := content_of_quoted lexeme
  rw [same rest, studyParameters, if_pos isComma]
  simp [studyParameter, expect_cons isName, expect_cons isEqual, expect_cons isString, name, content, bind, Except.bind]
  omega

theorem studyParameters_overlay {tokens : List Token} {b : Bool}
    (printed : tokens.map Token.word = parameterWords "overlay" (booleanWord b)) (header : Study)
    (rest : List Token) :
    studyParameters (α := α) bounds room header (tokens ++ rest) =
      studyParameters (α := α) bounds room { header with overlay := b } rest := by
  obtain ⟨comma, n, equal, v, same, isComma, isName, name, isEqual, isValue, lexeme⟩ := parameter_of_words printed
  have isBoolean : v.kind = .boolean := isValue
  have truth : decide (v.lexeme = "true") = b := by
    rw [lexeme]
    cases b <;> decide
  rw [same rest, studyParameters, if_pos isComma]
  simp [studyParameter, expect_cons isName, expect_cons isEqual, expect_cons isBoolean, name, truth, bind, Except.bind]
  omega

theorem studyHeader_words {tokens : List Token} {header : Study}
    (printed : tokens.map Token.word = ⟨.leftParen, "("⟩ ::
      (quotedWord header.title :: parameterWords "shorttitle" (quotedWord header.shortTitle) ++
        parameterWords "overlay" (booleanWord header.overlay)) ++ [⟨.rightParen, ")"⟩]) (rest : List Token) :
    studyHeader (α := α) bounds room (tokens ++ rest) = .ok (header, rest) := by
  obtain ⟨opening, inner, closing, same, opens, printed, closes⟩ := bracketed_of_words printed
  obtain ⟨title, after, rfl, isTitle, printed⟩ := List.map_eq_cons_iff.mp printed
  obtain ⟨short, overlay, rfl, shortPrinted, overlayPrinted⟩ := List.map_eq_append_iff.mp printed
  have isString : title.kind = .string := congrArg Word.kind isTitle
  have content : title.content = header.title := content_of_quoted (congrArg Word.lexeme isTitle)
  have parameters :
      studyParameters (α := α) bounds room { title := header.title } (short ++ (overlay ++ closing :: rest)) =
        .ok (header, closing :: rest) := by
    rw [studyParameters_shortTitle shortPrinted, studyParameters_overlay overlayPrinted, studyParameters,
      if_neg (by simp [closes])]
  rw [same rest, studyHeader, expect_cons opens]
  simp [bind, Except.bind, isString, content, parameters, expect_cons closes]

theorem clause_declaration {declared : List String} {name : String} {value : Expr (Numeral α)} (other : name ≠ "study")
    (printable : value.Printable) (fits : value.levels < room) {tokens : List Token}
    (printed : tokens.map Token.word = ⟨.identifier, name⟩ :: ⟨.equal, "="⟩ :: value.words) {rest : List Token}
    (stops : Stops closedRank rest) :
    clause bounds room declared (tokens ++ rest) = .ok (declaration declared name (value.map Numeral.value), rest) := by
  obtain ⟨first, after, rfl, isFirst, within⟩ := List.map_eq_cons_iff.mp printed
  obtain ⟨equal, own, rfl, isEqual, ownPrinted⟩ := List.map_eq_cons_iff.mp within
  obtain ⟨kind, lexeme⟩ : first.kind = .identifier ∧ first.lexeme = name := Word.mk.inj isFirst
  have equalKind : equal.kind = .equal := congrArg Word.kind isEqual
  have reads := (printable.reparses bounds).expression fits ownPrinted rest stops
  rw [List.cons_append, List.cons_append, clause, if_neg (by simp [kind]), if_neg (lexeme ▸ other)]
  simp [Bounds.next, equalKind, reads, lexeme, bind, Except.bind]

theorem clause_plot {declared : List String} {value : Expr (Numeral α)} (printable : value.Printable)
    (fits : value.levels < room) {tokens : List Token} (printed : tokens.map Token.word = (plot value).words)
    (rest : List Token) :
    clause bounds room declared (tokens ++ rest) = .ok (.plot (value.map Numeral.value), rest) := by
  obtain ⟨first, after, rfl, isFirst, within⟩ := List.map_eq_cons_iff.mp printed
  obtain ⟨opening, inner, closing, same, opens, innerPrinted, closes⟩ := bracketed_of_words within
  obtain ⟨kind, lexeme⟩ : first.kind = .identifier ∧ first.lexeme = "plot" := Word.mk.inj isFirst
  have reads := (printable.reparses bounds).expression fits innerPrinted (closing :: rest)
    (.closed_cons (by simp [closes]) rest)
  rw [List.cons_append, same rest, clause, if_neg (by simp [kind]), if_neg (by simp [lexeme])]
  simp [Bounds.next, opens, lexeme, plotted, expect_cons opens, reads, expect_cons closes, bind, Except.bind]

theorem clause_words {declared : List String} {statement : Statement (Numeral α)} (printable : statement.Printable)
    (classified : statement.Classified declared.contains) (fits : ∀ e ∈ statement.expressions, e.levels < room)
    {tokens : List Token} (printed : tokens.map Token.word = statement.words) {newline : Token}
    (ends : newline.kind = .newline) (rest : List Token) :
    clause bounds room declared (tokens ++ newline :: rest) = .ok (statement.map Numeral.value, newline :: rest) := by
  have stops : Stops closedRank (newline :: rest) := .closed_cons (by simp [ends]) rest
  cases statement with
  | study header =>
    obtain ⟨first, after, rfl, isFirst, within⟩ := List.map_eq_cons_iff.mp printed
    obtain ⟨kind, lexeme⟩ : first.kind = .identifier ∧ first.lexeme = "study" := Word.mk.inj isFirst
    rw [List.cons_append, clause, if_neg (by simp [kind]), if_pos lexeme, studyHeader_words within]
    rfl
  | scalar name value =>
    have fitsValue : value.levels < room := fits value List.mem_cons_self
    have kept : (scalar name (value.map Numeral.value)).Classified declared.contains := classified.map
    rw [clause_declaration printable.2.1 printable.2.2 fitsValue printed stops, declaration_scalar kept]
    rfl
  | series name value =>
    have fitsValue : value.levels < room := fits value List.mem_cons_self
    have kept : (series name (value.map Numeral.value)).Classified declared.contains := classified.map
    rw [clause_declaration printable.2.1 printable.2.2 fitsValue printed stops, declaration_series kept]
    rfl
  | plot value =>
    exact clause_plot printable (fits value List.mem_cons_self) printed (newline :: rest)

end Clause

/-! ## Parsing scripts -/

theorem words_begin (statement : Statement (Numeral α)) :
    ∃ w rest, statement.words = w :: rest ∧ w.kind = .identifier := by
  cases statement <;> exact ⟨_, _, rfl, rfl⟩

theorem statements_words {bounds : Bounds} {room : Nat} {declared : List String}
    {script : List (Statement (Numeral α))} (isScript : IsScript declared script)
    (fits : ∀ statement ∈ script, ∀ e ∈ statement.expressions, e.levels < room) {tokens : List Token}
    (printed : tokens.map Token.word = scriptWords script) :
    statements bounds room declared tokens = .ok (script.map (map Numeral.value)) := by
  induction script generalizing declared tokens with
  | nil =>
    obtain rfl := List.map_eq_nil_iff.mp printed
    rw [statements]
    rfl
  | cons statement script ih =>
    obtain ⟨printable, classified, restIsScript⟩ := isScript
    obtain ⟨own, after, rfl, ownPrinted, within⟩ := List.map_eq_append_iff.mp printed
    obtain ⟨newline, rest, rfl, isNewline, restPrinted⟩ := List.map_eq_cons_iff.mp within
    have ends : newline.kind = .newline := congrArg Word.kind isNewline
    have ownFits := fits statement List.mem_cons_self
    have restFits := fun other mem => fits other (List.mem_cons_of_mem statement mem)
    have reads : clause bounds room declared (own ++ newline :: rest) =
        .ok (statement.map Numeral.value, newline :: rest) :=
      clause_words printable classified ownFits ownPrinted ends rest
    have further := ih restIsScript restFits restPrinted
    obtain ⟨w, ws, begins, isName⟩ := words_begin statement
    obtain ⟨t, others, rfl, same, -⟩ := List.map_eq_cons_iff.mp (ownPrinted.trans begins)
    have kind : t.kind = .identifier := (congrArg Word.kind same).trans isName
    rw [List.cons_append] at reads ⊢
    rw [statements, if_neg (by simp [kind]), reads]
    simp [bind, Except.bind, lineEnd, ends, declaredAfter_map, further]
    omega

theorem length_words_of_mem {statement : Statement (Numeral α)} {e : Expr (Numeral α)}
    (mem : e ∈ statement.expressions) : e.words.length ≤ statement.words.length := by
  cases statement with
  | study header => cases mem
  | scalar name value | series name value | plot value =>
    obtain rfl := List.mem_singleton.mp mem
    simp only [words, List.cons_append, List.length_cons, List.length_append]
    omega

theorem levels_lt_length_scriptWords {script : List (Statement (Numeral α))} {statement : Statement (Numeral α)}
    (mem : statement ∈ script) {e : Expr (Numeral α)} (isOf : e ∈ statement.expressions) :
    e.levels < (scriptWords script).length := by
  induction script with
  | nil => cases mem
  | cons first rest ih =>
    simp only [scriptWords, List.length_append, List.length_cons]
    rcases List.mem_cons.mp mem with rfl | mem
    · have few := e.levels_lt_length_words
      have short := length_words_of_mem isOf
      omega
    · have few := ih mem
      omega

end Statement

/-! ## Limits -/

theorem Limit.le_room_of_allows {limit : Limit} {count most : Nat} (allowed : limit.allows count = true)
    (le : count ≤ most) : count ≤ limit.room most := by
  cases limit with
  | whole bound =>
    simp only [Limit.allows, decide_eq_true_eq] at allowed
    simp only [Limit.room]
    omega
  | flag bound => simpa [Limit.allows, Limit.room] using allowed
  | incomparable typeName => cases allowed
  | fraction bound =>
    obtain ⟨more, split⟩ := Nat.exists_eq_add_of_le (Nat.succ_le_succ le)
    have kept : ∀ levels ∈ List.range (count + 1), (Limit.fraction bound).allows levels = true := fun levels mem =>
      Limit.allows_of_le allowed (Nat.le_of_lt_succ (List.mem_range.mp mem))
    rw [Limit.room, show most + 1 = count + 1 + more from split, List.range_add, List.takeWhile_append_of_pos kept]
    simp only [List.length_append, List.length_range]
    omega

/-! ## The round trip -/

section RoundTrip

variable {α : Type} [Literal α]

theorem tokenize_printed {script : List (Statement (Numeral α))} (isScript : Statement.IsScript [] script) :
    ∃ tokens last, tokenize (Statement.printed script) = .ok (tokens ++ [⟨.endOfScript, "", last⟩]) ∧
      tokens.map Token.word = Statement.scriptWords script ∧ ∀ t ∈ tokens, t.kind ≠ .endOfScript := by
  have spelled := Statement.scriptWords_spelled isScript
  obtain ⟨tokens, last, layout, same⟩ := Token.layout_written 1 (fun w mem => (spelled w mem).1)
    (fun w mem => (spelled w mem).2)
  refine ⟨tokens, last, ?_, same, ?_⟩
  · rw [tokenize, Statement.printed, String.toList_ofList]
    exact Token.scan_of_layout layout
  · intro t mem ends
    have mem : t.word ∈ Statement.scriptWords script := same ▸ List.mem_map_of_mem mem
    have never := (spelled _ mem).1
    rw [Word.Spelled, show t.word.kind = .endOfScript from ends] at never
    exact never

/-- Printed tokens are read back where the limit allows each expression its levels. -/
theorem parseTokens_printed {script : List (Statement (Numeral α))} (isScript : Statement.IsScript [] script)
    {limit : Limit} (fits : ∀ statement ∈ script, ∀ e ∈ statement.expressions, limit.allows (e.levels + 1))
    {tokens : List Token} {last : Int} (printed : tokens.map Token.word = Statement.scriptWords script)
    (inside : ∀ t ∈ tokens, t.kind ≠ .endOfScript) :
    parseTokens limit (tokens ++ [⟨.endOfScript, "", last⟩]) = .ok (script.map (Statement.map Numeral.value)) := by
  have kept : ∀ t ∈ tokens, decide (t.kind ≠ .endOfScript) = true := fun t mem => decide_eq_true (inside t mem)
  have ahead : (tokens ++ [Token.mk .endOfScript "" last]).takeWhile (·.kind ≠ .endOfScript) = tokens := by
    rw [List.takeWhile_append_of_pos kept]
    exact List.append_nil tokens
  have roomy : ∀ statement ∈ script, ∀ e ∈ statement.expressions, e.levels < limit.room (tokens.length + 1) := by
    intro statement mem e isOf
    have few := Statement.levels_lt_length_scriptWords mem isOf
    rw [← printed, List.length_map] at few
    exact Limit.le_room_of_allows (fits statement mem e isOf) (by omega)
  rw [parseTokens, ahead]
  exact Statement.statements_words isScript roomy printed

theorem parse_printed_of_levels {script : List (Statement (Numeral α))} (isScript : Statement.IsScript [] script)
    {limit : Limit} (fits : ∀ statement ∈ script, ∀ e ∈ statement.expressions, limit.allows (e.levels + 1)) :
    parse limit (Statement.printed script) = .ok (script.map (Statement.map Numeral.value)) := by
  obtain ⟨tokens, last, read, printed, inside⟩ := tokenize_printed isScript
  rw [parse, read]
  exact parseTokens_printed isScript fits printed inside

theorem parse_printed (script : List (Statement (Numeral α))) (isScript : Statement.IsScript [] script) :
    ∃ tokens, tokenize (Statement.printed script) = .ok tokens ∧
      ∀ limit : Limit, limit.allows tokens.length →
        parse limit (Statement.printed script) = .ok (script.map (Statement.map Numeral.value)) := by
  obtain ⟨tokens, last, read, printed, inside⟩ := tokenize_printed isScript
  refine ⟨_, read, fun limit allowed => parse_printed_of_levels isScript fun statement mem e isOf => ?_⟩
  have few := Statement.levels_lt_length_scriptWords mem isOf
  rw [← printed, List.length_map] at few
  refine Limit.allows_of_le allowed ?_
  rw [List.length_append]
  omega

end RoundTrip

namespace Sample

def zero : Numeral Float :=
  .ofLexeme "0" ⟨['0'], [], ⟨by decide, List.all_eq_true.mp rfl⟩, nofun, .inl ⟨rfl, rfl⟩⟩

def half : Numeral Float :=
  .ofLexeme "0.5" ⟨['0'], ['5'], ⟨by decide, List.all_eq_true.mp rfl⟩, List.all_eq_true.mp rfl, .inr ⟨rfl, by decide⟩⟩

def distance : Expr (Numeral Float) :=
  .binary (.name "x") (.arithmetic .subtract) (.binary (.number half) (.arithmetic .subtract) (.name "x"))

def script : List (Statement (Numeral Float)) :=
  [.study ⟨"Gap", "G", true⟩,
    .series "x" (.binary (.call "close" []) (.arithmetic .multiply) (.number half)),
    .series "gap" (.binary (.binary (.number zero) (.test .not) (.call "abs" [distance])) (.test .or) (.name "x")),
    .scalar "x" (.index "x" (.number zero)),
    .scalar "y" (.name "x"),
    .plot (.name "gap")]

theorem script_isScript : Statement.IsScript [] script := by
  have isX : Token.IsName "x".toList := by decide
  have isGap : Token.IsName "gap".toList := by decide
  have product : (Expr.binary (.call "close" []) (.arithmetic .multiply) (.number half)).Printable :=
    ⟨trivial, ⟨by decide, trivial⟩, trivial⟩
  have call : (Expr.call "abs" [distance]).Printable :=
    ⟨by decide, ⟨trivial, isX, trivial, trivial, isX⟩, trivial⟩
  have flipped : (Expr.binary (.number zero) (.test .not) (.call "abs" [distance])).Printable :=
    ⟨⟨_, rfl, rfl⟩, trivial, call⟩
  exact ⟨⟨by decide, by decide⟩, trivial, ⟨isX, by decide, product⟩, rfl,
    ⟨isGap, by decide, trivial, flipped, isX⟩, rfl, ⟨isX, by decide, isX, trivial⟩, rfl,
    ⟨by decide, by decide, isX⟩, rfl, isGap, trivial, trivial⟩

set_option maxRecDepth 4000 in
example : Statement.printed script =
    "study(\"Gap\", shorttitle = \"G\", overlay = true)\nx = close() * 0.5\n" ++
      "gap = !abs(x - (0.5 - x)) or x\nx = x[0]\ny = x\nplot(gap)\n" := by
  decide +kernel

end Sample

theorem parse_printed_sample :
    Statement.IsScript [] Sample.script ∧ ∃ tokens, tokenize (Statement.printed Sample.script) = .ok tokens ∧
      ∀ limit : Limit, limit.allows tokens.length →
        parse limit (Statement.printed Sample.script) = .ok (Sample.script.map (Statement.map Numeral.value)) :=
  ⟨Sample.script_isScript, parse_printed Sample.script Sample.script_isScript⟩

end IndicatorScript
