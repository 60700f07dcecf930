import IndicatorScript.Yaml.Problem

/-!
# Tokens of a YAML text

The signs, names and scalars of a text, and the beginnings and ends of blocks, which indentation tells.
-/

namespace IndicatorScript.Yaml

inductive Directive where
  | version (major minor : Nat)
  | tagHandle (handle expansion : String)
  | other
  deriving DecidableEq, Repr

inductive Style where
  | plain | quoted | block
  deriving DecidableEq, Repr

inductive Token.Content where
  | textStart | textEnd
  | directive (said : Directive)
  | documentStart | documentEnd
  | blockSequenceStart | blockMappingStart | blockEnd
  | flowSequenceStart | flowSequenceEnd | flowMappingStart | flowMappingEnd
  | blockEntry | flowEntry | key | value
  | alias (name : String)
  | anchor (name : String)
  /-- A tag, with the handle that its beginning stands behind. -/
  | tag (handle : Option String) (suffix : String)
  | scalar (text : String) (style : Style)
  deriving DecidableEq, Repr

structure Token where
  content : Token.Content
  start : Mark
  stop : Mark
  deriving DecidableEq, Repr

def Token.Content.name : Token.Content → String
  | .textStart => "<stream start>"
  | .textEnd => "<stream end>"
  | .directive _ => "<directive>"
  | .documentStart => "<document start>"
  | .documentEnd => "<document end>"
  | .blockSequenceStart => "<block sequence start>"
  | .blockMappingStart => "<block mapping start>"
  | .blockEnd => "<block end>"
  | .flowSequenceStart => "["
  | .flowSequenceEnd => "]"
  | .flowMappingStart => "\x7b"
  | .flowMappingEnd => "\x7d"
  | .blockEntry => "-"
  | .flowEntry => ","
  | .key => "?"
  | .value => ":"
  | .alias _ => "<alias>"
  | .anchor _ => "<anchor>"
  | .tag _ _ => "<tag>"
  | .scalar _ _ => "<scalar>"

def Token.shown (token : Token) : String := Text.quoted token.content.name

end IndicatorScript.Yaml
