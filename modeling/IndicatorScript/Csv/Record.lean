import IndicatorScript.Text.Line

/-!
# Records

Comma-separated text as records of fields. A field that begins with a quote goes on to the next single quote; in it
commas and line breaks count as text, and a quote is written twice. Elsewhere a quote is a character like others.
Lines of blanks are skipped. The reader takes the text character by character.
-/

namespace IndicatorScript.Csv

structure Record where
  fields : List String
  /-- Which line of the text it is, where line breaks within quotes do not count. -/
  line : Nat
  deriving DecidableEq, Repr

inductive Place where
  | recordStart
  /-- At the start of a record, after a carriage return to which a line feed may belong. -/
  | afterReturn
  | blankLine
  | fieldStart
  | plain
  | quoted
  | afterQuote
  deriving DecidableEq, Repr

structure Reading where
  place : Place := .recordStart
  /-- The characters of the field, the last one first. -/
  field : List Char := []
  /-- The fields of the record, the last one first. -/
  fields : List String := []
  /-- The records read, the last one first. -/
  records : List Record := []
  /-- How many lines have ended. -/
  line : Nat := 0
  deriving Repr

namespace Reading

def push (reading : Reading) (place : Place) (c : Char) : Reading :=
  { reading with place, field := c :: reading.field }

def fieldText (reading : Reading) : String :=
  String.ofList (reading.field.reverse.takeWhile (· ≠ '\x00'))

def endField (reading : Reading) : Reading :=
  { reading with place := .fieldStart, field := [], fields := reading.fieldText :: reading.fields }

def endRecord (reading : Reading) (place : Place) : Reading :=
  let fields := reading.endField.fields.reverse
  { place, records := ⟨fields, reading.line + 1⟩ :: reading.records, line := reading.line + 1 }

def skipLine (reading : Reading) (place : Place) : Reading :=
  { place, records := reading.records, line := reading.line + 1 }

def isBlank (c : Char) : Bool := c = ' ' || c = '\t'

def takePlain (reading : Reading) (c : Char) : Reading :=
  if c = '\n' then reading.endRecord .recordStart
  else if c = '\r' then reading.endRecord .afterReturn
  else if c = ',' then reading.endField
  else reading.push .plain c

def takeFieldStart (reading : Reading) (c : Char) : Reading :=
  if c = '"' then { reading with place := .quoted } else reading.takePlain c

def takeRecordStart (reading : Reading) (c : Char) : Reading :=
  if c = '\n' then reading.skipLine .recordStart
  else if c = '\r' then reading.skipLine .afterReturn
  else if isBlank c then reading.push .blankLine c
  else reading.takeFieldStart c

/-- One more character. A line that begins with blanks and does not end there begins with a plain field. -/
def take (reading : Reading) (c : Char) : Reading :=
  match reading.place with
  | .recordStart => reading.takeRecordStart c
  | .afterReturn => if c = '\n' then { reading with place := .recordStart } else reading.takeRecordStart c
  | .blankLine =>
      if c = '\n' then reading.skipLine .recordStart
      else if c = '\r' then reading.skipLine .afterReturn
      else if isBlank c then reading.push .blankLine c
      else reading.takePlain c
  | .fieldStart => reading.takeFieldStart c
  | .plain => reading.takePlain c
  | .quoted => if c = '"' then { reading with place := .afterQuote } else reading.push .quoted c
  | .afterQuote => if c = '"' then reading.push .quoted c else reading.takePlain c

def finish (reading : Reading) : Reading :=
  match reading.place with
  | .fieldStart | .plain | .afterQuote => reading.endRecord .recordStart
  | .recordStart | .afterReturn | .blankLine | .quoted => reading

end Reading

def records (text : String) : List Record × Option Nat :=
  let reading := ((Text.afterMark text.toList).foldl Reading.take {}).finish
  (reading.records.reverse, if reading.place = .quoted then some reading.line else none)

end IndicatorScript.Csv
