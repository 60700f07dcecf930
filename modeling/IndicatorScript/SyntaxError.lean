import IndicatorScript.Token
import IndicatorScript.Limit
import IndicatorScript.Fault

/-!
# Syntax errors

Why a text is no script, and the line on which that shows.
-/

namespace IndicatorScript

inductive Expectation where
  | parenAfterStudy
  | parenAfterStudyParameters
  | parameterName
  | equalAfterParameterName
  | stringFor (parameter : String)
  | truthValueForOverlay
  | parenAfterPlot
  | parenAfterPlotted
  | parenAfterArguments
  | parenAfterExpression
  | bracketAfterIndex
  | newlineAfterStatement
  deriving DecidableEq, Repr

def Expectation.text : Expectation → String
  | .parenAfterStudy => "Expected '(' after 'study'"
  | .parenAfterStudyParameters => "Expected ')' after study parameters"
  | .parameterName => "Expected parameter name in study declaration"
  | .equalAfterParameterName => "Expected '=' after parameter name"
  | .stringFor parameter => "Expected string value for '" ++ parameter ++ "'"
  | .truthValueForOverlay => "Expected true or false for 'overlay'"
  | .parenAfterPlot => "Expected '(' after 'plot'"
  | .parenAfterPlotted => "Expected ')' after plot expression"
  | .parenAfterArguments => "Expected ')' after arguments"
  | .parenAfterExpression => "Expected ')' after expression"
  | .bracketAfterIndex => "Expected ']' after series index"
  | .newlineAfterStatement => "Expected newline after statement"

inductive SyntaxError.Cause where
  | unexpectedCharacter (c : Char)
  | unterminatedString
  | unexpectedToken (found : Token)
  | expected (what : Expectation) (found : Token)
  | expectedEqual (name : String)
  | tooDeep (limit : Limit)
  | notCallable
  | notIndexable
  /-- A number token whose text names no number. The lexer makes none. -/
  | unreadableNumber (lexeme : String)
  deriving DecidableEq

def SyntaxError.Cause.text : SyntaxError.Cause → String
  | .unexpectedCharacter c => "Unexpected character: " ++ Text.quoted (String.singleton c)
  | .unterminatedString => "Unterminated string"
  | .unexpectedToken found => "Unexpected token: " ++ found.shown
  | .expected what found => what.text ++ ", got " ++ found.shown
  | .expectedEqual name => "Expected '=' after " ++ Text.quoted name
  | .tooDeep limit => "Expression nested deeper than " ++ limit.shown ++ " levels"
  | .notCallable => "Invalid function call"
  | .notIndexable => "Invalid series access"
  | .unreadableNumber lexeme => "could not convert string to float: " ++ Text.quoted lexeme

structure SyntaxError where
  cause : SyntaxError.Cause
  line : Int
  deriving DecidableEq

def SyntaxError.message (e : SyntaxError) : String :=
  Fault.syntaxError.message (some (Fault.located e.cause.text e.line))

end IndicatorScript
