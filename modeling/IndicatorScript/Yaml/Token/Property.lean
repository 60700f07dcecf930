import IndicatorScript.Yaml.Cursor
import IndicatorScript.Yaml.Token
import IndicatorScript.Yaml.Token.Octets

/-!
# Names, tags and directives

The tokens that say something of a node or of the whole text: anchors and aliases, tags, and directives.
-/

namespace IndicatorScript.Yaml

open Yaml.Cursor

def isNameChar (c : Char) : Bool :=
  c.isDigit || ('A' ≤ c && c ≤ 'Z') || ('a' ≤ c && c ≤ 'z') || c = '-' || c = '_'

/-- Whether a line or a word that is divided by spaces alone ends in front of a character. -/
def endsWord (c : Char) : Bool := endsLine c || c = ' '

def isHexDigit (c : Char) : Bool := c.isDigit || ('a' ≤ c && c ≤ 'f') || ('A' ≤ c && c ≤ 'F')

def hexValue (digits : List Char) : Nat :=
  digits.foldl (fun value c => 16 * value + (if c.isDigit then c.toNat - 48 else c.toLower.toNat - 87)) 0

/-! ## Anchors and aliases -/

def nameFollowers : List Char := ['?', ':', ',', ']', '}', '%', '@', '\x60']

def nodeName (what : String) : Reader String := fun cursor => do
  let setting : Setting := ⟨"while scanning an " ++ what, cursor.mark⟩
  let after := cursor.next
  let name := after.span isNameChar
  if name.isEmpty then after.unexpected setting "alphabetic or numeric character"
  else
    let after := after.skip name.length
    if separates after.head || nameFollowers.contains after.head then .ok (String.ofList name, after)
    else after.unexpected setting "alphabetic or numeric character"

/-! ## Tags -/

def tagSetting (verb what : String) (start : Mark) : Setting := ⟨"while " ++ verb ++ " a " ++ what, start⟩

def tagHandle (what : String) (start : Mark) : Reader String := fun cursor => do
  let setting := tagSetting "scanning" what start
  if cursor.head ≠ '!' then cursor.unexpected setting "'!'"
  else if cursor.ahead 1 = ' ' then .ok ("!", cursor.next)
  else
    let name := cursor.next.span isNameChar
    let after := cursor.next.skip name.length
    if after.head = '!' then .ok (String.ofList ('!' :: name ++ ['!']), after.next)
    else after.unexpected setting "'!'"

def percentOctets (what : String) (start : Mark) : (steps : Nat) → Cursor → Except Problem (List Nat × Cursor)
  | 0, cursor => .ok ([], cursor)
  | steps + 1, cursor =>
      if cursor.head ≠ '%' then .ok ([], cursor)
      else
        let digits := cursor.next
        match [digits.head, digits.ahead 1].find? (!isHexDigit ·) with
        | some c =>
            digits.problem (tagSetting "scanning" what start)
              ("expected URI escape sequence of 2 hexadecimal numbers, but found " ++
                Text.quoted (String.singleton c))
        | none => do
            let (others, after) ← percentOctets what start steps (digits.skip 2)
            .ok (hexValue (digits.rest.take 2) :: others, after)

def percentText (what : String) (start : Mark) : Reader (List Char) := fun cursor => do
  let (octets, after) ← percentOctets what start cursor.rest.length cursor
  match Octets.decode octets with
  | .ok text => .ok (text, after)
  | .error problem => cursor.problem (tagSetting "scanning" what start) problem

def uriPunctuation : List Char :=
  ['-', ';', '/', '?', ':', '@', '&', '=', '+', '$', ',', '_', '.', '!', '~', '*', '\'', '(', ')', '[', ']', '%']

def isUriChar (c : Char) : Bool :=
  c.isDigit || ('A' ≤ c && c ≤ 'Z') || ('a' ≤ c && c ≤ 'z') || uriPunctuation.contains c

def uriParts (what : String) (start : Mark) : (steps : Nat) → Cursor → Except Problem (List Char × Cursor)
  | 0, cursor => .ok ([], cursor)
  | steps + 1, cursor =>
      if cursor.head = '%' then do
        let (text, after) ← percentText what start cursor
        let (others, after) ← uriParts what start steps after
        .ok (text ++ others, after)
      else if isUriChar cursor.head then do
        let (others, after) ← uriParts what start steps cursor.next
        .ok (cursor.head :: others, after)
      else .ok ([], cursor)

def uri (what : String) (start : Mark) : Reader String := fun cursor => do
  if isUriChar cursor.head then
    let (text, after) ← uriParts what start cursor.rest.length cursor
    .ok (String.ofList text, after)
  else cursor.unexpected (tagSetting "parsing" what start) "URI"

/-- The handle and the rest of a tag. A tag in angle brackets stands for itself, and so does an exclamation mark
alone. -/
def tagParts (start : Mark) : Reader (Option String × String) := fun cursor => do
  let second := cursor.ahead 1
  if second = '<' then
    let (suffix, after) ← uri "tag" start (cursor.skip 2)
    if after.head = '>' then .ok ((none, suffix), after.next)
    else after.unexpected (tagSetting "parsing" "tag" start) "'>'"
  else if separates second then .ok ((none, "!"), cursor.next)
  else
    let word := cursor.next.span (!endsWord ·)
    let (handle, after) ← if word.contains '!' then tagHandle "tag" start cursor else .ok ("!", cursor.next)
    let (suffix, after) ← uri "tag" start after
    .ok ((some handle, suffix), after)

def tagToken : Reader Token.Content := fun cursor => do
  let ((handle, suffix), after) ← tagParts cursor.mark cursor
  if endsWord after.head then .ok (.tag handle suffix, after)
  else after.unexpected (tagSetting "scanning" "tag" cursor.mark) "' '"

/-! ## Directives -/

def directiveSetting (start : Mark) : Setting := tagSetting "scanning" "directive" start

def directiveName (start : Mark) : Reader String := fun cursor => do
  let name := cursor.span isNameChar
  let after := cursor.skip name.length
  if !name.isEmpty && endsWord after.head then .ok (String.ofList name, after)
  else after.unexpected (directiveSetting start) "alphabetic or numeric character"

def versionNumber (start : Mark) : Reader Nat := fun cursor => do
  let digits := cursor.span Char.isDigit
  if digits.isEmpty then cursor.unexpected (directiveSetting start) "a digit"
  else .ok (digits.foldl (fun value c => 10 * value + (c.toNat - 48)) 0, cursor.skip digits.length)

def version (start : Mark) : Reader Directive := fun cursor => do
  let (major, after) ← versionNumber start cursor.skipSpaces
  if after.head ≠ '.' then after.unexpected (directiveSetting start) "a digit or '.'"
  else
    let (minor, after) ← versionNumber start after.next
    if endsWord after.head then .ok (.version major minor, after)
    else after.unexpected (directiveSetting start) "a digit or ' '"

def handleDefinition (start : Mark) : Reader Directive := fun cursor => do
  let (handle, after) ← tagHandle "directive" start cursor.skipSpaces
  if after.head ≠ ' ' then after.unexpected (directiveSetting start) "' '"
  else
    let (expansion, after) ← uri "directive" start after.skipSpaces
    if endsWord after.head then .ok (.tagHandle handle expansion, after)
    else after.unexpected (directiveSetting start) "' '"

def restOfLine (setting : Setting) : Reader Unit := fun cursor => do
  let after := cursor.skipSpaces.skipComment
  if endsLine after.head then .ok ((), after.skipBreak)
  else after.unexpected setting "a comment or a line break"

def directive : Reader (Directive × Mark) := fun cursor => do
  let start := cursor.mark
  let (name, after) ← directiveName start cursor.next
  let (said, after) ←
    if name = "YAML" then version start after
    else if name = "TAG" then handleDefinition start after
    else .ok (Directive.other, after.skipWhile (!endsLine ·))
  let ((), next) ← restOfLine (directiveSetting start) after
  .ok ((said, after.mark), next)

end IndicatorScript.Yaml
