import IndicatorScript.Yaml.Token.Scalar

/-!
# Reading the tokens of a YAML text

Tokens are read one after the other. Two things are known only later: that a node is a key, when the colon after it is
met, and that a block ends, when a line is indented less. So the places where a key may begin are kept, one for each
level of brackets, until the line ends or the key gets too long; a token that may turn out to follow the sign of a key
is not passed on before that is decided.
-/

namespace IndicatorScript.Yaml

open Yaml.Cursor

structure KeyPlace where
  /-- How many tokens come before it. -/
  position : Nat
  /-- Whether nothing but a key can begin here. -/
  required : Bool
  index : Nat
  mark : Mark
  deriving Repr

def longestKey : Nat := 1024

structure Lexer where
  cursor : Cursor
  tokens : Array Token := #[]
  /-- How many brackets are open. Closing brackets without an opening one count too. -/
  brackets : Int := 0
  /-- The column of the innermost block, and those of the blocks around it. -/
  indent : Int := -1
  outer : List Int := []
  /-- Whether a key on one line may begin here. -/
  keyAllowed : Bool := true
  /-- The places where a key may have begun, by the level of brackets. -/
  keys : List (Int × KeyPlace) := []

namespace Lexer

def inFlow (lexer : Lexer) : Bool := lexer.brackets ≠ 0

def problem {β : Type} (lexer : Lexer) (text : String) : Except Problem β := lexer.cursor.problem none text

def noColon {β : Type} (lexer : Lexer) (place : KeyPlace) : Except Problem β :=
  lexer.cursor.problem (some ⟨"while scanning a simple key", place.mark⟩) "could not find expected ':'"

def push (lexer : Lexer) (content : Token.Content) (start stop : Mark) : Lexer :=
  { lexer with tokens := lexer.tokens.push ⟨content, start, stop⟩ }

def pushEmpty (lexer : Lexer) (content : Token.Content) : Lexer :=
  lexer.push content lexer.cursor.mark lexer.cursor.mark

def pushSign (lexer : Lexer) (content : Token.Content) (count : Nat := 1) : Lexer :=
  let after := lexer.cursor.skip count
  { lexer.push content lexer.cursor.mark after.mark with cursor := after }

/-! ## Keys -/

def isStale (lexer : Lexer) (place : KeyPlace) : Bool :=
  place.mark.line ≠ lexer.cursor.mark.line || longestKey < lexer.cursor.index - place.index

def dropStale (lexer : Lexer) : Except Problem Lexer :=
  match lexer.keys.find? fun (_, place) => lexer.isStale place && place.required with
  | some (_, place) => lexer.noColon place
  | none => .ok { lexer with keys := lexer.keys.filter fun (_, place) => !lexer.isStale place }

def dropKey (lexer : Lexer) : Except Problem Lexer :=
  match lexer.keys.lookup lexer.brackets with
  | some place =>
      if place.required then lexer.noColon place
      else .ok { lexer with keys := lexer.keys.filter (·.1 ≠ lexer.brackets) }
  | none => .ok lexer

def keepKey (lexer : Lexer) : Except Problem Lexer := do
  if lexer.keyAllowed then
    let lexer ← lexer.dropKey
    let place : KeyPlace :=
      { position := lexer.tokens.size
        required := !lexer.inFlow && lexer.indent = lexer.cursor.column
        index := lexer.cursor.index
        mark := lexer.cursor.mark }
    .ok { lexer with keys := lexer.keys ++ [(lexer.brackets, place)] }
  else .ok lexer

def certain (lexer : Lexer) : Nat :=
  lexer.keys.foldl (fun count (_, place) => Nat.min count place.position) lexer.tokens.size

/-! ## Blocks -/

def unwind (lexer : Lexer) (column : Int) : Lexer :=
  if lexer.inFlow then lexer
  else
    let ended := (lexer.indent :: lexer.outer).takeWhile (column < ·)
    let left := (lexer.indent :: lexer.outer).dropWhile (column < ·)
    { ended.foldl (fun lexer _ => lexer.pushEmpty .blockEnd) lexer with
      indent := left.headD (-1)
      outer := left.tail }

def beginsBlock (lexer : Lexer) (column : Nat) : Bool := lexer.indent < column

def enterBlock (lexer : Lexer) (column : Nat) : Lexer :=
  { lexer with indent := column, outer := lexer.indent :: lexer.outer }

def openBlock (lexer : Lexer) (content : Token.Content) : Lexer :=
  if !lexer.inFlow && lexer.beginsBlock lexer.cursor.column then
    (lexer.enterBlock lexer.cursor.column).pushEmpty content
  else lexer

/-! ## Signs -/

def readEnd (lexer : Lexer) : Except Problem Lexer := do
  let lexer ← (lexer.unwind (-1)).dropKey
  .ok ({ lexer with keyAllowed := false, keys := [] }.pushEmpty .textEnd)

def readDirective (lexer : Lexer) : Except Problem Lexer := do
  let lexer ← (lexer.unwind (-1)).dropKey
  let ((said, stop), after) ← directive lexer.cursor
  .ok { lexer.push (.directive said) lexer.cursor.mark stop with cursor := after, keyAllowed := false }

def readMarker (lexer : Lexer) (content : Token.Content) : Except Problem Lexer := do
  let lexer ← (lexer.unwind (-1)).dropKey
  .ok ({ lexer with keyAllowed := false }.pushSign content 3)

def readOpening (lexer : Lexer) (content : Token.Content) : Except Problem Lexer := do
  let lexer ← lexer.keepKey
  .ok ({ lexer with brackets := lexer.brackets + 1, keyAllowed := true }.pushSign content)

def readClosing (lexer : Lexer) (content : Token.Content) : Except Problem Lexer := do
  let lexer ← lexer.dropKey
  .ok ({ lexer with brackets := lexer.brackets - 1, keyAllowed := false }.pushSign content)

def readComma (lexer : Lexer) : Except Problem Lexer := do
  let lexer ← lexer.dropKey
  .ok ({ lexer with keyAllowed := true }.pushSign .flowEntry)

def readDash (lexer : Lexer) : Except Problem Lexer := do
  if !lexer.inFlow && !lexer.keyAllowed then lexer.problem "sequence entries are not allowed here"
  else
    let lexer ← (lexer.openBlock .blockSequenceStart).dropKey
    .ok ({ lexer with keyAllowed := true }.pushSign .blockEntry)

def readQuestion (lexer : Lexer) : Except Problem Lexer := do
  if !lexer.inFlow && !lexer.keyAllowed then lexer.problem "mapping keys are not allowed here"
  else
    let lexer ← (lexer.openBlock .blockMappingStart).dropKey
    .ok ({ lexer with keyAllowed := !lexer.inFlow }.pushSign .key)

/-- Puts the sign of a key in front of the node that began at a place, and before that the beginning of a mapping if
the key is its first. -/
def insertKey (lexer : Lexer) (place : KeyPlace) : Lexer :=
  let before := lexer.tokens.take place.position
  let after := lexer.tokens.drop place.position
  let sign (content : Token.Content) : Token := ⟨content, place.mark, place.mark⟩
  if !lexer.inFlow && lexer.beginsBlock place.mark.column then
    { lexer.enterBlock place.mark.column with
      tokens := before ++ #[sign .blockMappingStart, sign .key] ++ after }
  else { lexer with tokens := before ++ #[sign .key] ++ after }

def readColon (lexer : Lexer) : Except Problem Lexer := do
  match lexer.keys.lookup lexer.brackets with
  | some place =>
      let lexer := { lexer with keys := lexer.keys.filter (·.1 ≠ lexer.brackets) }
      .ok ({ lexer.insertKey place with keyAllowed := false }.pushSign .value)
  | none =>
      if !lexer.inFlow && !lexer.keyAllowed then lexer.problem "mapping values are not allowed here"
      else
        let lexer ← ({ lexer.openBlock .blockMappingStart with keyAllowed := !lexer.inFlow }).dropKey
        .ok (lexer.pushSign .value)

/-! ## Names, tags and scalars -/

def readContent (lexer : Lexer) (reader : Reader Token.Content) : Except Problem Lexer := do
  let lexer ← lexer.keepKey
  let (content, after) ← reader lexer.cursor
  .ok { lexer.push content lexer.cursor.mark after.mark with cursor := after, keyAllowed := false }

def readName (lexer : Lexer) (what : String) (content : String → Token.Content) : Except Problem Lexer :=
  lexer.readContent fun cursor => (nodeName what cursor).map fun (name, after) => (content name, after)

def readQuoted (lexer : Lexer) : Except Problem Lexer :=
  lexer.readContent fun cursor =>
    (quotedScalar cursor).map fun (text, after) => (.scalar (String.ofList text) .quoted, after)

def readBlock (lexer : Lexer) : Except Problem Lexer := do
  let lexer ← { lexer with keyAllowed := true }.dropKey
  let (text, after) ← blockScalar lexer.indent lexer.cursor
  .ok { lexer.push (.scalar (String.ofList text) .block) lexer.cursor.mark after.mark with cursor := after }

def readPlain (lexer : Lexer) : Except Problem Lexer := do
  let lexer ← lexer.keepKey
  let scalar := plainScalar lexer.inFlow (lexer.indent + 1) lexer.cursor
  .ok { lexer.push (.scalar (String.ofList scalar.text) .plain) lexer.cursor.mark scalar.after.mark with
    cursor := scalar.after, keyAllowed := scalar.broken }

def indicators : List Char :=
  ['-', '?', ':', ',', '[', ']', '{', '}', '#', '&', '*', '!', '|', '>', '\'', '"', '%', '@', '\x60']

def beginsPlain (lexer : Lexer) : Bool :=
  let c := lexer.cursor.head
  (!separates c && !indicators.contains c) ||
    (!separates (lexer.cursor.ahead 1) && (c = '-' || (!lexer.inFlow && (c = '?' || c = ':'))))

/-! ## The next token -/

def isSign (lexer : Lexer) (c : Char) : Bool :=
  lexer.cursor.head = c && (lexer.inFlow || separates (lexer.cursor.ahead 1))

def readToken (lexer : Lexer) : Except Problem Lexer :=
  let cursor := lexer.cursor
  let lineStart := cursor.column = 0
  match cursor.head with
  | '\x00' => lexer.readEnd
  | '[' => lexer.readOpening .flowSequenceStart
  | '{' => lexer.readOpening .flowMappingStart
  | ']' => lexer.readClosing .flowSequenceEnd
  | '}' => lexer.readClosing .flowMappingEnd
  | ',' => lexer.readComma
  | '*' => lexer.readName "alias" .alias
  | '&' => lexer.readName "anchor" .anchor
  | '!' => lexer.readContent tagToken
  | '\'' => lexer.readQuoted
  | '"' => lexer.readQuoted
  | c =>
      if c = '%' && lineStart then lexer.readDirective
      else if lineStart && cursor.beginsTriple '-' then lexer.readMarker .documentStart
      else if lineStart && cursor.beginsTriple '.' then lexer.readMarker .documentEnd
      else if c = '-' && separates (cursor.ahead 1) then lexer.readDash
      else if lexer.isSign '?' then lexer.readQuestion
      else if lexer.isSign ':' then lexer.readColon
      else if (c = '|' || c = '>') && !lexer.inFlow then lexer.readBlock
      else if lexer.beginsPlain then lexer.readPlain
      else
        cursor.problem (some ⟨"while scanning for the next token", none⟩)
          ("found character " ++ Text.quoted (String.singleton c) ++ " that cannot start any token")

def next (lexer : Lexer) : Except Problem Lexer := do
  let (broken, cursor) := lexer.cursor.toContent
  let lexer ← { lexer with cursor, keyAllowed := lexer.keyAllowed || (broken && !lexer.inFlow) }.dropStale
  let lexer ← (lexer.unwind cursor.column).readToken
  if cursor.head = '\x00' then .ok lexer else lexer.dropStale

/-- Reads the tokens one after the other; where one cannot be read, those that are certain by then are left. -/
def readAll (lexer : Lexer) : (steps : Nat) → Array Token × Option Problem
  | 0 => (lexer.tokens, none)
  | steps + 1 =>
      match lexer.next with
      | .error problem => (lexer.tokens.take lexer.certain, some problem)
      | .ok after => if lexer.cursor.toContent.2.head = '\x00' then (after.tokens, none) else after.readAll steps

end Lexer

def tokens (text : List Char) : Array Token × Option Problem :=
  let start : Lexer := { cursor := .start text }
  (start.pushEmpty .textStart).readAll (text.length + 1)

end IndicatorScript.Yaml
