import IndicatorScript.Text.Quoted

/-!
# Tokens

A script is read as a list of tokens: a kind, the text it was written as, and the line it begins on. Line breaks and
comments are tokens too; the end of the script is one more, with an empty text.
-/

namespace IndicatorScript

inductive Token.Kind where
  | leftParen | rightParen | leftBracket | rightBracket | comma
  | plus | minus | star | slash
  | bang | bangEqual | equal | equalEqual | greater | greaterEqual | less | lessEqual
  | and | or
  | number | string | boolean | identifier
  | newline | comment | endOfScript
  deriving DecidableEq, Repr

structure Token where
  kind : Token.Kind
  lexeme : String
  line : Int
  deriving DecidableEq, Repr

def Token.shown (t : Token) : String :=
  match t.kind with
  | .endOfScript => "end of input"
  | .newline => "newline"
  | _ => Text.quoted t.lexeme

end IndicatorScript
