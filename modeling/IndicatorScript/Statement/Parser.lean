import IndicatorScript.Expr.Kind
import IndicatorScript.Expr.Parser
import IndicatorScript.Token.Lexer

/-!
# Parsing scripts

A script is a list of statements, each on lines of its own. `study` begins the header; a name and an equals sign begin
a declaration, also for the name `plot`, which otherwise begins a plot. Whether a declaration makes a series or a
scalar is decided by the kind of its expression, given the names declared as series so far.
-/

namespace IndicatorScript

namespace Statement

variable {α : Type}

def declaredAfter (declared : List String) : Statement α → List String
  | .series name _ => name :: declared.filter (· ≠ name)
  | .scalar name _ => declared.filter (· ≠ name)
  | .study _ | .plot _ => declared

def declaration (declared : List String) (name : String) (value : Expr α) : Statement α :=
  if value.isSeries declared.contains then .series name value else .scalar name value

variable [Literal α] (bounds : Bounds) (room : Nat)

/-- A parameter of the header. Parameters with other names take any expression and have no effect. -/
def studyParameter (header : Study) : Parser Study := fun tokens => do
  let (name, rest) ← bounds.expect .identifier .parameterName tokens
  let (_, rest) ← bounds.expect .equal .equalAfterParameterName rest
  if name.lexeme = "title" then
    let (value, rest) ← bounds.expect .string (.stringFor "title") rest
    .ok ({ header with title := value.content }, rest)
  else if name.lexeme = "shorttitle" then
    let (value, rest) ← bounds.expect .string (.stringFor "shorttitle") rest
    .ok ({ header with shortTitle := value.content }, rest)
  else if name.lexeme = "overlay" then
    let (value, rest) ← bounds.expect .boolean .truthValueForOverlay rest
    .ok ({ header with overlay := value.lexeme = "true" }, rest)
  else
    let (_, rest) ← Expr.expression (α := α) bounds room rest
    .ok (header, rest)

/-- Further parameters of the header, each after a comma. One that reads nothing would be the last. -/
def studyParameters (header : Study) (tokens : List Token) : Except SyntaxError (Study × List Token) :=
  match tokens with
  | [] => .ok (header, [])
  | t :: rest =>
      if t.kind = .comma then do
        let (header, after) ← studyParameter (α := α) bounds room header rest
        if after.length < rest.length then studyParameters header after else .ok (header, after)
      else .ok (header, t :: rest)
  termination_by tokens.length
  decreasing_by simp_all; omega

def studyHeader : Parser Study := fun tokens => do
  let (_, rest) ← bounds.expect .leftParen .parenAfterStudy tokens
  let (header, rest) ←
    match rest with
    | t :: after =>
        if t.kind = .string then .ok ({ title := t.content }, after)
        else if t.kind = .identifier then studyParameter (α := α) bounds room {} rest
        else .ok ({}, rest)
    | [] => .ok ({}, rest)
  let (header, rest) ← studyParameters (α := α) bounds room header rest
  let (_, rest) ← bounds.expect .rightParen .parenAfterStudyParameters rest
  .ok (header, rest)

def plotted : Parser (Expr α) := fun tokens => do
  let (_, rest) ← bounds.expect .leftParen .parenAfterPlot tokens
  let (value, rest) ← Expr.expression bounds room rest
  let (_, rest) ← bounds.expect .rightParen .parenAfterPlotted rest
  .ok (value, rest)

def clause (declared : List String) (tokens : List Token) : Except SyntaxError (Statement α × List Token) :=
  match tokens with
  | [] => bounds.fail (.unexpectedToken (bounds.next [])) []
  | t :: rest =>
      if t.kind ≠ .identifier then bounds.fail (.unexpectedToken t) (t :: rest)
      else if t.lexeme = "study" then do
        let (header, rest) ← studyHeader (α := α) bounds room rest
        .ok (.study header, rest)
      else if (bounds.next rest).kind = .equal then do
        let (value, rest) ← Expr.expression bounds room (rest.drop 1)
        .ok (declaration declared t.lexeme value, rest)
      else if t.lexeme = "plot" then do
        let (value, rest) ← plotted bounds room rest
        .ok (.plot value, rest)
      else bounds.fail (.expectedEqual t.lexeme) rest

def lineEnd (tokens : List Token) : Except SyntaxError (List Token) :=
  match tokens with
  | [] => .ok []
  | t :: rest =>
      if t.kind = .newline then .ok rest
      else if t.kind = .comment then .ok (t :: rest)
      else bounds.unexpected .newlineAfterStatement (t :: rest)

/-- The statements of a script, given the names declared as series before them. A statement that reads nothing would
be the last. -/
def statements (declared : List String) (tokens : List Token) : Except SyntaxError (List (Statement α)) :=
  match tokens with
  | [] => .ok []
  | t :: rest =>
      if t.kind = .newline ∨ t.kind = .comment then statements declared rest
      else do
        let (statement, after) ← clause bounds room declared (t :: rest)
        let after ← lineEnd bounds after
        if after.length ≤ rest.length then
          let further ← statements (statement.declaredAfter declared) after
          .ok (statement :: further)
        else .ok [statement]
  termination_by tokens.length
  decreasing_by
    · simp
    · rw [List.length_cons]; omega

end Statement

section Parse

variable {α : Type} [Literal α]

def lastLine (tokens : List Token) : Int :=
  match tokens.find? (·.kind = .endOfScript) with
  | some t => t.line
  | none => (tokens.getLast?.map Token.line).getD 1

def parseTokens (limit : Limit) (tokens : List Token) : Except SyntaxError (List (Statement α)) :=
  let ahead := tokens.takeWhile (·.kind ≠ .endOfScript)
  Statement.statements ⟨limit, lastLine tokens⟩ (limit.room (ahead.length + 1)) [] ahead

def parse (limit : Limit) (source : String) : Except SyntaxError (List (Statement α)) := do
  let tokens ← tokenize source
  parseTokens limit tokens

end Parse

end IndicatorScript
