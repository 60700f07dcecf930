import IndicatorScript.Csv.Table
import IndicatorScript.Csv.Writing

/-!
# Exported tables

A plotted series beside the time stamps of its bars. The values are labelled by position and the time stamps by the
labels of the rows; where these are other labels, each label of either kind gets a row.
-/

namespace IndicatorScript.CommandLine

inductive JoinError where
  /-- There are no time stamps, and the series has not one value per row. -/
  | lengthMismatch (rows values : Nat)
  | repeatedLabels
  /-- Labels of several parts and positions are no labels of one table. -/
  | severalParts
  /-- The series has several values per bar. -/
  | severalValues (rows values : Nat)
  deriving DecidableEq, Repr

def JoinError.message : JoinError → String
  | .lengthMismatch rows values =>
      "array length " ++ toString rows ++ " does not match index length " ++ toString values
  | .repeatedLabels => "cannot reindex on an axis with duplicate labels"
  | .severalParts =>
      "Can only union MultiIndex with MultiIndex or Index of tuples, try mi.to_flat_index().union(other) instead."
  | .severalValues rows values =>
      "Data must be 1-dimensional, got ndarray of shape (" ++ toString rows ++ ", " ++ toString values ++ ") instead"

/-! ## Labels -/

inductive LabelKey where
  | whole (i : Int)
  | fraction (x : Float)
  | text (s : String)
  | missing

def LabelKey.ofCell : Cell Float → LabelKey
  | .integer i => .whole i
  | .number x => if x.isNaN then .missing else .fraction x
  | .flag b => .whole b.toNat
  | .text s => .text s
  | .missing => .missing

namespace LabelKey

def same : LabelKey → LabelKey → Bool
  | .whole i, .whole j => i = j
  | .whole i, .fraction x | .fraction x, .whole i => Number.ofInt? i == some x
  | .fraction x, .fraction y => x == y
  | .text s, .text t => s = t
  | .missing, .missing => true
  | _, _ => false

def notAfter : LabelKey → LabelKey → Bool
  | .whole i, .whole j => i ≤ j
  | .whole i, .fraction x => ((Number.ofInt? i).getD 0.0 : Float) ≤ x
  | .fraction x, .whole i => x ≤ (Number.ofInt? i).getD 0.0
  | .fraction x, .fraction y => x ≤ y
  | .text s, .text t => s ≤ t
  | .whole _, _ | .fraction _, _ => true
  | .text _, .missing => true
  | .missing, .missing => true
  | _, _ => false

def isText : LabelKey → Bool
  | .text _ => true
  | _ => false

end LabelKey

def hasRepeated : List LabelKey → Bool
  | [] => false
  | label :: rest => rest.any label.same || hasRepeated rest

def areAscendingTexts (labels : List LabelKey) : Bool :=
  labels.all LabelKey.isText && (labels.zip (labels.drop 1)).all fun (first, second) => first.notAfter second

/-! ## Rows -/

structure ExportRow where
  stamp : Option (Cell Float)
  value : Option Float

def pairRows : List (Cell Float) → List Float → List ExportRow
  | [], _ => []
  | stamp :: stamps, [] => ⟨some stamp, none⟩ :: pairRows stamps []
  | stamp :: stamps, x :: xs => ⟨some stamp, some x⟩ :: pairRows stamps xs

def LabelKey.position? : LabelKey → Option Nat
  | .whole i => i.toNat?
  | .fraction x => (Number.toInt? x).bind Int.toNat?
  | .text _ | .missing => none

def labelRows (labels : List LabelKey) (stamps : List (Cell Float)) (values : Array Float) :
    List (LabelKey × ExportRow) :=
  (labels.zip stamps).map fun (label, stamp) => (label, ⟨some stamp, label.position?.bind (values[·]?)⟩)

def positionRows (labels : List LabelKey) (values : List Float) : List (LabelKey × ExportRow) :=
  let named := labels.filterMap LabelKey.position?
  values.zipIdx.filterMap fun (value, position) =>
    if named.contains position then none else some (.whole position, ⟨none, some value⟩)

/-- A row for every label and for every position. They are put in order unless the labels are texts in order, which
stay in front. -/
def unionRows (labels : List LabelKey) (stamps : List (Cell Float)) (values : List Float) : List ExportRow :=
  let rows := labelRows labels stamps values.toArray ++ positionRows labels values
  let ordered :=
    if areAscendingTexts labels then rows else rows.mergeSort fun (first, _) (second, _) => first.notAfter second
  ordered.map (·.2)

def isNumber : Cell Float → Bool
  | .integer _ | .number _ => true
  | _ => false

def exportRows (table : Csv.Table) (values : List Float) : Except JoinError (List ExportRow) :=
  let cells := table.frame.labels
  let labels := cells.map LabelKey.ofCell
  match table.frame.column? stampColumn with
  | none =>
      if cells.length ≠ values.length then .error (.lengthMismatch cells.length values.length)
      else .ok (pairRows cells values)
  | some stamps =>
      if table.labelParts = 0 then .ok (pairRows stamps values)
      else if 1 < table.labelParts then
        if values.isEmpty then .ok (pairRows stamps values) else .error .severalParts
      else if hasRepeated labels && !(values.isEmpty && cells.all isNumber) then .error .repeatedLabels
      else if values.isEmpty then .ok (pairRows stamps values)
      else .ok (unionRows labels stamps values)

/-! ## Writing -/

def isWhole : Cell Float → Bool
  | .integer _ => true
  | _ => false

def besideMissing : Cell Float → Cell Float
  | .integer i => .number ((Number.ofInt? i).getD 0.0)
  | cell => cell

/-- The time stamps as they are written. Whole numbers become fractions if a row has none. -/
def writtenStamps (rows : List ExportRow) : List String :=
  let hasGap := rows.any (·.stamp.isNone)
  let areWhole := rows.all fun row => (row.stamp.map isWhole).getD true
  rows.map fun row =>
    match row.stamp with
    | none => ""
    | some stamp => Csv.writtenCell (if hasGap && areWhole then besideMissing stamp else stamp)

def exportText (rows : List ExportRow) : String :=
  let values := rows.map fun row => (row.value.map Csv.writtenNumber).getD ""
  Csv.writtenLines
    (["timestamp", "value"] :: List.zipWith (fun stamp value => [stamp, value]) (writtenStamps rows) values)

end IndicatorScript.CommandLine
