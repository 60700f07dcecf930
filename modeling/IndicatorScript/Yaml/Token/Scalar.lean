import IndicatorScript.Yaml.Cursor
import IndicatorScript.Yaml.Token.Property

/-!
# Scalars of a YAML text

Plain, quoted and block scalars. Within a plain or quoted scalar a single line break counts as a space, and of several
the first is dropped. The readers that pass line breaks take the count of steps they may make; the length of the text
is always enough.
-/

namespace IndicatorScript.Yaml

open Yaml.Cursor

def foldBreaks (first : Char) (others : List Char) : List Char :=
  if breakValue first ≠ '\n' then breakValue first :: others
  else if others.isEmpty then [' ']
  else others

/-! ## Plain scalars -/

def flowBrackets : List Char := ['[', ']', '{', '}']

def plainWord (inFlow : Bool) : List Char → List Char
  | [] => []
  | c :: rest =>
      let second := rest.headD '\x00'
      if separates c then []
      else if c = ':' && (separates second || (inFlow && (second = ',' || flowBrackets.contains second))) then []
      else if inFlow && (c = ',' || c = '?' || flowBrackets.contains c) then []
      else c :: plainWord inFlow rest

structure Gap where
  text : List Char
  /-- Whether there is a line break in it. -/
  broken : Bool
  after : Cursor

/-- Passes spaces and line breaks. None stands for the breaks if a line follows that separates documents. -/
def moreBreaks : (steps : Nat) → Cursor → Option (List Char) × Cursor
  | 0, cursor => (some [], cursor)
  | steps + 1, cursor =>
      if cursor.head = ' ' then moreBreaks steps cursor.next
      else if isBreak cursor.head then
        if cursor.next.beginsMarker then (none, cursor.next)
        else
          let (others, after) := moreBreaks steps cursor.next
          (others.map (breakValue cursor.head :: ·), after)
      else (some [], cursor)

def plainGap (cursor : Cursor) : Gap :=
  let after := cursor.skipSpaces
  if isBreak after.head then
    let next := after.next
    if next.beginsMarker then ⟨[], true, next⟩
    else
      match moreBreaks next.rest.length next with
      | (some others, last) => ⟨foldBreaks after.head others, true, last⟩
      | (none, last) => ⟨[], true, last⟩
  else ⟨cursor.span (· = ' '), false, after⟩

structure PlainScalar where
  text : List Char
  broken : Bool
  after : Cursor

def plainFrom (inFlow : Bool) (indent : Int) : (steps : Nat) → (gap : Gap) → PlainScalar
  | 0, gap => ⟨[], gap.broken, gap.after⟩
  | steps + 1, gap =>
      let word := if gap.after.head = '#' then [] else plainWord inFlow gap.after.rest
      if word.isEmpty then ⟨[], gap.broken, gap.after⟩
      else
        let next := plainGap (gap.after.skip word.length)
        if next.text.isEmpty || next.after.head = '#' || (!inFlow && next.after.column < indent) then
          ⟨gap.text ++ word, next.broken, next.after⟩
        else
          let others := plainFrom inFlow indent steps next
          { others with text := gap.text ++ word ++ others.text }

def plainScalar (inFlow : Bool) (indent : Int) (cursor : Cursor) : PlainScalar :=
  plainFrom inFlow indent cursor.rest.length ⟨[], false, cursor⟩

/-! ## Quoted scalars -/

def simpleEscapes : List (Char × Nat) :=
  [ ('0', 0), ('a', 7), ('b', 8), ('t', 9), ('\t', 9), ('n', 10), ('v', 11), ('f', 12), ('r', 13), ('e', 27),
    (' ', 0x20), ('"', 0x22), ('\\', 0x5c), ('/', 0x2f), ('N', 0x85), ('_', 0xa0), ('L', 0x2028), ('P', 0x2029) ]

def hexEscape? (c : Char) : Option Nat :=
  if c = 'x' then some 2 else if c = 'u' then some 4 else if c = 'U' then some 8 else none

def pairedCode? (high low : Nat) : Option Nat :=
  if 0xd800 ≤ high ∧ high < 0xdc00 ∧ 0xdc00 ≤ low ∧ low < 0xe000 then
    some (0x10000 + (high - 0xd800) * 0x400 + (low - 0xdc00))
  else none

/-- The character with a code. The half of a pair is none, and is shown as the replacement character. -/
def characterOf (code : Nat) : Char := if 0xd800 ≤ code ∧ code < 0xe000 then '\ufffd' else Char.ofNat code

def doubleQuotedSetting (start : Mark) : Setting := ⟨"while scanning a double-quoted scalar", start⟩

def quotedSetting (start : Mark) : Setting := ⟨"while scanning a quoted scalar", start⟩

def hexCode (start : Mark) (count : Nat) : Reader Nat := fun cursor => do
  let digits := (List.range count).map cursor.ahead
  match digits.find? (!isHexDigit ·) with
  | some c =>
      cursor.problem (some (doubleQuotedSetting start))
        ("expected escape sequence of " ++ toString count ++ " hexadecimal numbers, but found " ++
          Text.quoted (String.singleton c))
  | none =>
      let code := hexValue digits
      if 0x80000000 ≤ code then .error (.unfit .codeTooLarge)
      else if 0x110000 ≤ code then .error (.unfit .noCharacter)
      else .ok (code, cursor.skip count)

def hexCharacter (start : Mark) (count : Nat) : Reader Char := fun cursor => do
  let (high, after) ← hexCode start count cursor
  let low? :=
    if after.rest.take 2 = ['\\', 'u'] then
      match hexCode start 4 (after.skip 2) with
      | .ok (low, last) => (pairedCode? high low).map (·, last)
      | .error _ => none
    else none
  match low? with
  | some (code, last) => .ok (characterOf code, last)
  | none => .ok (characterOf high, after)

def quotedBreaks (start : Mark) : (steps : Nat) → Cursor → Except Problem (List Char × Cursor)
  | 0, cursor => .ok ([], cursor)
  | steps + 1, cursor =>
      if cursor.beginsMarker then
        cursor.problem (some (quotedSetting start)) "found unexpected document separator"
      else
        let after := cursor.skipWhile fun c => c = ' ' || c = '\t'
        if isBreak after.head then do
          let (others, last) ← quotedBreaks start steps after.next
          .ok (breakValue after.head :: others, last)
        else .ok ([], after)

def quotedGap (start : Mark) : Reader (List Char) := fun cursor => do
  let blanks := cursor.span fun c => c = ' ' || c = '\t'
  let after := cursor.skip blanks.length
  if after.head = '\x00' then after.problem (some (quotedSetting start)) "found unexpected end of stream"
  else if isBreak after.head then
    let (others, last) ← quotedBreaks start after.rest.length after.next
    .ok (foldBreaks after.head others, last)
  else .ok (blanks, after)

def escaped (start : Mark) : Reader (List Char) := fun cursor => do
  let letter := cursor.next
  match simpleEscapes.lookup letter.head, hexEscape? letter.head with
  | some code, _ => .ok ([Char.ofNat code], letter.next)
  | none, some count =>
      let (c, after) ← hexCharacter start count letter.next
      .ok ([c], after)
  | none, none =>
      if isBreak letter.head then quotedBreaks start letter.rest.length letter.next
      else
        letter.problem (some (doubleQuotedSetting start))
          ("found unknown escape character " ++ Text.quoted (String.singleton letter.head))

def quotedFrom (quote : Char) (start : Mark) : (steps : Nat) → Cursor → Except Problem (List Char × Cursor)
  | 0, cursor => cursor.problem (some (quotedSetting start)) "found unexpected end of stream"
  | steps + 1, cursor =>
      let c := cursor.head
      if quote = '\'' ∧ c = '\'' ∧ cursor.ahead 1 = '\'' then do
        let (others, after) ← quotedFrom quote start steps (cursor.skip 2)
        .ok ('\'' :: others, after)
      else if c = quote then .ok ([], cursor.next)
      else if separates c then do
        let (gap, after) ← quotedGap start cursor
        let (others, after) ← quotedFrom quote start steps after
        .ok (gap ++ others, after)
      else if quote = '"' ∧ c = '\\' then do
        let (text, after) ← escaped start cursor
        let (others, after) ← quotedFrom quote start steps after
        .ok (text ++ others, after)
      else do
        let (others, after) ← quotedFrom quote start steps cursor.next
        .ok (c :: others, after)

def quotedScalar : Reader (List Char) := fun cursor =>
  quotedFrom cursor.head cursor.mark (cursor.rest.length + 1) cursor.next

/-! ## Block scalars -/

inductive Chomping where
  | strip | clip | keep
  deriving DecidableEq, Repr

structure BlockHeader where
  chomping : Chomping
  /-- How much deeper the text is indented than its parent, if that is given. -/
  indent : Option Nat
  deriving Repr

def blockSetting (start : Mark) : Setting := ⟨"while scanning a block scalar", start⟩

def chomping? (c : Char) : Option Chomping :=
  if c = '+' then some .keep else if c = '-' then some .strip else none

def indentDigit (start : Mark) : Reader (Option Nat) := fun cursor => do
  if cursor.head = '0' then
    cursor.problem (some (blockSetting start)) "expected indentation indicator in the range 1-9, but found 0"
  else if cursor.head.isDigit then .ok (some (cursor.head.toNat - 48), cursor.next)
  else .ok (none, cursor)

/-- The header of a block scalar: a sign and a digit in either order. -/
def blockHeader (start : Mark) : Reader BlockHeader := fun cursor => do
  let (header, after) ←
    match chomping? cursor.head with
    | some chomping => do
        let (indent, after) ← indentDigit start cursor.next
        .ok (BlockHeader.mk chomping indent, after)
    | none => do
        let (indent, after) ← indentDigit start cursor
        match (if indent.isSome then chomping? after.head else none) with
        | some chomping => .ok (BlockHeader.mk chomping indent, after.next)
        | none => .ok (BlockHeader.mk .clip indent, after)
  if endsWord after.head then .ok (header, after)
  else after.unexpected (blockSetting start) "chomping or indentation indicators"

def blankLines : (steps : Nat) → (deepest : Nat) → Cursor → List Char × Nat × Cursor
  | 0, deepest, cursor => ([], deepest, cursor)
  | steps + 1, deepest, cursor =>
      if isBreak cursor.head then
        let (others, deepest, after) := blankLines steps deepest cursor.next
        (breakValue cursor.head :: others, deepest, after)
      else if cursor.head = ' ' then blankLines steps (Nat.max deepest cursor.next.column) cursor.next
      else ([], deepest, cursor)

def skipIndent (indent : Nat) : (steps : Nat) → Cursor → Cursor
  | 0, cursor => cursor
  | steps + 1, cursor =>
      if cursor.column < indent ∧ cursor.head = ' ' then skipIndent indent steps cursor.next else cursor

def indentedBreaks (indent : Nat) : (steps : Nat) → Cursor → List Char × Cursor
  | 0, cursor => ([], cursor)
  | steps + 1, cursor =>
      let after := skipIndent indent cursor.rest.length cursor
      if isBreak after.head then
        let (others, last) := indentedBreaks indent steps after.next
        (breakValue after.head :: others, last)
      else ([], after)

def beginsBlank (cursor : Cursor) : Bool := cursor.head = ' ' || cursor.head = '\t'

/-- The lines of a block scalar, and the breaks after the last of them: its own, if it has one, and those of the blank
lines that follow. -/
structure BlockLines where
  text : List Char
  lastBreak : List Char
  trailing : List Char
  after : Cursor

def blockLines (folded : Bool) (indent : Nat) :
    (steps : Nat) → (lastBreak breaks : List Char) → Cursor → BlockLines
  | 0, lastBreak, breaks, cursor => ⟨[], lastBreak, breaks, cursor⟩
  | steps + 1, lastBreak, breaks, cursor =>
      if cursor.column ≠ indent ∨ cursor.head = '\x00' then ⟨[], lastBreak, breaks, cursor⟩
      else
        let line := cursor.span (!endsLine ·)
        let ending := cursor.skip line.length
        let lineBreak := if isBreak ending.head then [breakValue ending.head] else []
        let (nextBreaks, next) := indentedBreaks indent ending.rest.length ending.skipBreak
        let others := blockLines folded indent steps lineBreak nextBreaks next
        let between :=
          if next.column ≠ indent ∨ next.head = '\x00' then []
          else if folded ∧ lineBreak = ['\n'] ∧ !beginsBlank cursor ∧ !beginsBlank next then
            if nextBreaks.isEmpty then [' '] else []
          else lineBreak
        { others with text := breaks ++ line ++ between ++ others.text }

def blockScalar (parent : Int) : Reader (List Char) := fun cursor => do
  let start := cursor.mark
  let (header, after) ← blockHeader start cursor.next
  let ((), first) ← restOfLine (blockSetting start) after
  let least := Nat.max (parent + 1).toNat 1
  let steps := first.rest.length
  let (indent, breaks, content) := match header.indent with
    | some more =>
        let indent := least + more - 1
        let (breaks, content) := indentedBreaks indent steps first
        (indent, breaks, content)
    | none =>
        let (breaks, deepest, content) := blankLines steps 0 first
        (Nat.max least deepest, breaks, content)
  let lines := blockLines (cursor.head = '>') indent steps [] breaks content
  let ending := match header.chomping with
    | .strip => []
    | .clip => lines.lastBreak
    | .keep => lines.lastBreak ++ lines.trailing
  .ok (lines.text ++ ending, lines.after)

end IndicatorScript.Yaml
