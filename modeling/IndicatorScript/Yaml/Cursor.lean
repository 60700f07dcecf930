import IndicatorScript.Yaml.Problem

/-!
# Places in a YAML text

Lines and columns matter in YAML, so a cursor carries them along with the text that is left.
-/

namespace IndicatorScript.Yaml

def isBreak (c : Char) : Bool := c = '\n' || c = '\x85' || c = '\u2028' || c = '\u2029'

def endsLine (c : Char) : Bool := c = '\x00' || isBreak c

def separates (c : Char) : Bool := endsLine c || c = ' ' || c = '\t'

def breakValue (c : Char) : Char := if c = '\x85' then '\n' else c

structure Cursor where
  rest : List Char
  /-- How many characters have been passed. -/
  index : Nat
  mark : Mark

namespace Cursor

def start (text : List Char) : Cursor := ⟨text, 0, ⟨0, 0⟩⟩

/-- The character so many places ahead. At the end of the text it is the null character, which no text holds. -/
def ahead (cursor : Cursor) (count : Nat) : Char := (cursor.rest[count]?).getD '\x00'

def head (cursor : Cursor) : Char := cursor.ahead 0

def column (cursor : Cursor) : Nat := cursor.mark.column

/-- One character further. A byte order mark takes no column. -/
def next (cursor : Cursor) : Cursor :=
  match cursor.rest with
  | [] => cursor
  | c :: rest =>
      let mark :=
        if isBreak c then ⟨cursor.mark.line + 1, 0⟩
        else if c = '\ufeff' then cursor.mark
        else ⟨cursor.mark.line, cursor.mark.column + 1⟩
      ⟨rest, cursor.index + 1, mark⟩

def skip (cursor : Cursor) : (count : Nat) → Cursor
  | 0 => cursor
  | count + 1 => cursor.next.skip count

def span (cursor : Cursor) (condition : Char → Bool) : List Char := cursor.rest.takeWhile condition

def skipWhile (cursor : Cursor) (condition : Char → Bool) : Cursor :=
  cursor.skip (cursor.span condition).length

def skipSpaces (cursor : Cursor) : Cursor := cursor.skipWhile (· = ' ')

def skipComment (cursor : Cursor) : Cursor :=
  if cursor.head = '#' then cursor.skipWhile (!endsLine ·) else cursor

def skipBreak (cursor : Cursor) : Cursor := if isBreak cursor.head then cursor.next else cursor

def toContentFrom (broken : Bool) (cursor : Cursor) : (steps : Nat) → Bool × Cursor
  | 0 => (broken, cursor)
  | steps + 1 =>
      let after := cursor.skipSpaces.skipComment
      if isBreak after.head then after.next.toContentFrom true steps else (broken, after)

/-- The next content. A byte order mark at the very beginning is none. -/
def toContent (cursor : Cursor) : Bool × Cursor :=
  let cursor := if cursor.index = 0 ∧ cursor.head = '\ufeff' then cursor.next else cursor
  cursor.toContentFrom false (cursor.rest.length + 1)

def beginsTriple (cursor : Cursor) (c : Char) : Bool :=
  cursor.rest.take 3 = [c, c, c] && separates (cursor.ahead 3)

def beginsMarker (cursor : Cursor) : Bool := cursor.beginsTriple '-' || cursor.beginsTriple '.'

def problem {β : Type} (cursor : Cursor) (setting : Option Setting) (text : String) : Except Problem β :=
  .error (.placed .tokens setting text cursor.mark)

def unexpected {β : Type} (cursor : Cursor) (setting : Setting) (expected : String) : Except Problem β :=
  cursor.problem (some setting)
    ("expected " ++ expected ++ ", but found " ++ Text.quoted (String.singleton cursor.head))

end Cursor

abbrev Reader (β : Type) := Cursor → Except Problem (β × Cursor)

end IndicatorScript.Yaml
