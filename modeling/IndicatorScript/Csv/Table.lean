import IndicatorScript.Csv.Column
import IndicatorScript.Csv.Record
import IndicatorScript.Decimal.Shortest

/-!
# Tables in comma-separated text

A record of column names and a record for each row. Short rows are filled up with missing words. Where the first row
has more words than there are names, the words in front label the rows.
-/

namespace IndicatorScript.Csv

inductive TableError where
  | noColumns
  | tooManyFields (expected line found : Nat)
  | openQuote (line : Nat)
  deriving DecidableEq, Repr

def TableError.message : TableError → String
  | noColumns => "No columns to parse from file"
  | tooManyFields expected line found =>
      "Error tokenizing data. C error: Expected " ++ toString expected ++ " fields in line " ++ toString line ++
        ", saw " ++ toString found ++ "\n"
  | openQuote line => "Error tokenizing data. C error: EOF inside string starting at row " ++ toString line

/-! ## Column names -/

def numbered (name : String) (number : Nat) : String := name ++ "." ++ toString number

/-- The first number from a given one on that makes a new name. Of one number more than there are names one does. -/
def freeNumber (names : List String) (name : String) (least : Nat) : Nat :=
  ((List.range' least (names.length + 1)).find? fun number => !names.contains (numbered name number)).getD least

structure Naming where
  names : List String
  /-- The number that the next column of a name gets; the first one gets none. -/
  next : List (String × Nat) := []

def Naming.settle (naming : Naming) (position : Nat) : Naming :=
  let name := naming.names.getD position ""
  match naming.next.lookup name with
  | none => { naming with next := (name, 1) :: naming.next }
  | some least =>
      let number := freeNumber naming.names name least
      let settled := numbered name number
      ⟨naming.names.set position settled, (settled, 1) :: (name, number + 1) :: naming.next⟩

/-- The names of the columns. A column without a name is called by its position, and of several columns with one name
all but the first get a number. Given names are settled first. -/
def columnNames (header : List String) : List String :=
  let positions := List.range header.length
  let isNamed (position : Nat) : Bool := header.getD position "" ≠ ""
  let names := header.zipIdx.map fun (name, position) =>
    if name = "" then "Unnamed: " ++ toString position else name
  ((positions.filter isNamed ++ positions.filter (!isNamed ·)).foldl Naming.settle { names }).names

/-! ## Rows -/

/-- The first record with more fields than there is room for. The first row makes the room. -/
def overlong? (width : Nat) (rows : List Record) : Option Record :=
  rows.find? (width < ·.fields.length)

def column (rows : List Record) (position : Nat) : List String :=
  rows.map fun row => row.fields.getD position ""

def shownPart : Cell Float → String
  | .integer i => toString i
  | .number x => Decimal.shortest x
  | .flag b => if b then "True" else "False"
  | .text s => Text.quoted s
  | .missing => "nan"

def joinedParts (rows : Nat) (parts : List (List (Cell Float))) : List (Cell Float) :=
  (List.range rows).map fun row =>
    .text ("(" ++ ", ".intercalate (parts.map fun cells => shownPart (cells.getD row .missing)) ++ ")")

structure Table where
  frame : Frame Float
  /-- How many words in front of each row are its label. -/
  labelParts : Nat

def labels (rows : List Record) : (parts : Nat) → List (Cell Float)
  | 0 => (List.range rows.length).map fun (i : Nat) => .integer i
  | 1 => cells (column rows 0)
  | parts => joinedParts rows.length ((List.range parts).map fun part => cells (column rows part))

def table (text : String) : Except TableError Table :=
  match records text with
  | ([], none) => .error .noColumns
  | ([], some line) => .error (.openQuote line)
  | (header :: rows, unfinished) =>
      let width := Nat.max header.fields.length ((rows.head?.map (·.fields.length)).getD 0)
      let parts := width - header.fields.length
      match overlong? width rows, unfinished with
      | some row, _ => .error (.tooManyFields width row.line row.fields.length)
      | none, some line => .error (.openQuote line)
      | none, none =>
          .ok {
            frame := {
              columns := (columnNames header.fields).zipIdx.map fun (name, position) =>
                (name, cells (column rows (position + parts)))
              labels := labels rows parts }
            labelParts := parts }

end IndicatorScript.Csv
