import IndicatorScript.Bar
import IndicatorScript.Expr
import IndicatorScript.Text.Quoted

/-!
# Frames

Bars as a table of named columns. The five price columns are found by their names in any letter case and in any order,
and other columns are left out. The time stamps are a column of that name if there is one, and the row labels
otherwise. Names that differ in letter case only can make several columns of one price.
-/

namespace IndicatorScript

inductive Cell (α : Type) where
  | integer (i : Int)
  | number (x : α)
  | flag (b : Bool)
  | text (s : String)
  | missing
  deriving Repr

structure Frame (α : Type) where
  columns : List (String × List (Cell α))
  labels : List (Cell α)

structure StampedBars (α : Type) where
  stamps : List (Cell α)
  bars : List (Bar α)

/-- Bars with the first column of each price, and the columns of a price after its first. -/
structure Market (α : Type) extends StampedBars α where
  further : Price → List (List α)

inductive FrameError where
  | missingColumns (names : List String)
  | unreadable (text : String)
  | integerTooLarge
  /-- More than one column of time stamps. -/
  | severalStamps (rows columns : Nat) (areNumbers : Bool)
  | unequalColumns
  | wrongLength (column labels : Nat)
  /-- There are columns of a price after its first. -/
  | severalColumns
  deriving DecidableEq, Repr

namespace FrameError

def message : FrameError → String
  | missingColumns names => "Missing required columns: " ++ Text.bracketed (names.map Text.quoted)
  | unreadable text => "could not convert string to float: " ++ Text.quoted text
  | integerTooLarge => "int too large to convert to float"
  | severalStamps rows columns areNumbers =>
      if areNumbers then
        "Expected a 1D array, got an array with shape (" ++ toString rows ++ ", " ++ toString columns ++ ")"
      else "Buffer has wrong number of dimensions (expected 1, got 2)"
  | unequalColumns => "All arrays must be of the same length"
  | wrongLength column labels =>
      "Length of values (" ++ toString column ++ ") does not match length of index (" ++ toString labels ++ ")"
  | severalColumns => "Several columns of one price"

end FrameError

def Price.columnName : Price → String
  | .opening => "open"
  | .high => "high"
  | .low => "low"
  | .close => "close"
  | .volume => "volume"

def Price.pick {β : Type} (opening high low close volume : β) : Price → β
  | .opening => opening
  | .high => high
  | .low => low
  | .close => close
  | .volume => volume

def Price.columns : List Price := [.opening, .high, .low, .close, .volume]

def stampColumn : String := "timestamp"

def missingColumns (present : List String) : List String :=
  (Price.columns.map Price.columnName).filter (!present.contains ·)

def normalName (name : String) : String := name.map Char.toLower

variable {α : Type}

def areNumbers (cells : List (Cell α)) : Bool :=
  let isNumber : Cell α → Bool
    | .integer _ | .number _ => true
    | _ => false
  let isMissing : Cell α → Bool
    | .missing => true
    | _ => false
  cells.any isNumber && cells.all fun cell => isNumber cell || isMissing cell

def areFlags (cells : List (Cell α)) : Bool :=
  let isFlag : Cell α → Bool
    | .flag _ => true
    | _ => false
  !cells.isEmpty && cells.all isFlag

namespace Frame

/-- Columns by name: of several with one name the last one counts, at the place of the first. -/
def unique (columns : List (String × List (Cell α))) : List (String × List (Cell α)) :=
  columns.foldl (fun seen (name, cells) =>
    if seen.any (·.1 = name) then seen.map fun entry => if entry.1 = name then (name, cells) else entry
    else seen ++ [(name, cells)]) []

/-- A column for so many labels. A single cell stands for all. -/
def stretched (labels : Nat) (cells : List (Cell α)) : Except FrameError (List (Cell α)) :=
  match cells with
  | [cell] => .ok (List.replicate labels cell)
  | cells => if cells.length = labels then .ok cells else .error (.wrongLength cells.length labels)

def ofColumns (columns : List (String × List (Cell α))) (labels : Option (List (Cell α))) :
    Except FrameError (Frame α) := do
  let columns := unique columns
  match labels with
  | some labels =>
      let columns ← columns.mapM fun (name, cells) => return (name, ← stretched labels.length cells)
      return ⟨columns, labels⟩
  | none =>
      let rows := (columns.head?.map (·.2.length)).getD 0
      if columns.any (·.2.length ≠ rows) then throw .unequalColumns
      return ⟨columns, (List.range rows).map fun (i : Nat) => .integer i⟩

end Frame

variable [Number α] [Literal α]

def Cell.toNumber : Cell α → Except FrameError α
  | .integer i =>
      match Number.ofInt? i with
      | some x => .ok x
      | none => .error .integerTooLarge
  | .number x => .ok x
  | .flag b => .ok (Number.ofBool b)
  | .text s =>
      match Literal.read? s with
      | some x => .ok x
      | none => .error (.unreadable s)
  | .missing => .ok Number.nan

namespace Frame

def columnsOf (frame : Frame α) (name : String) : List (List (Cell α)) :=
  (frame.columns.filter fun (given, _) => normalName given = name).map (·.2)

def column? (frame : Frame α) (name : String) : Option (List (Cell α)) := (frame.columnsOf name).head?

def prices (frame : Frame α) (price : Price) : Except FrameError (List (List α)) :=
  (frame.columnsOf price.columnName).mapM fun cells => cells.mapM Cell.toNumber

/-- The time stamps: the column of that name, or else the labels. -/
def stamps (frame : Frame α) : Except FrameError (List (Cell α)) :=
  match frame.columnsOf stampColumn with
  | [] => .ok frame.labels
  | [column] => .ok column
  | columns =>
      .error (.severalStamps frame.labels.length columns.length (columns.all areNumbers || columns.all areFlags))

def rows : (opening high low close volume : List α) → List (Bar α)
  | o :: opening, h :: high, l :: low, c :: close, v :: volume =>
      ⟨o, h, l, c, v⟩ :: rows opening high low close volume
  | _, _, _, _, _ => []

def toMarket (frame : Frame α) : Except FrameError (Market α) :=
  match missingColumns (frame.columns.map fun (name, _) => normalName name) with
  | [] => do
      let opening ← frame.prices .opening
      let high ← frame.prices .high
      let low ← frame.prices .low
      let close ← frame.prices .close
      let volume ← frame.prices .volume
      let stamps ← frame.stamps
      .ok {
        stamps
        bars := rows (opening.headD []) (high.headD []) (low.headD []) (close.headD []) (volume.headD [])
        further := Price.pick opening.tail high.tail low.tail close.tail volume.tail }
  | names => .error (.missingColumns names)

end Frame

namespace Market

def columns (market : Market α) (price : Price) : List (List α) :=
  market.bars.map (·.price price) :: market.further price

def isSingle (market : Market α) : Bool := Price.columns.all fun price => (market.further price).isEmpty

def toBars (market : Market α) : Except FrameError (StampedBars α) :=
  if market.isSingle then .ok market.toStampedBars else .error .severalColumns

end Market

def Frame.toBars (frame : Frame α) : Except FrameError (StampedBars α) := do
  let market ← frame.toMarket
  market.toBars

inductive BarInput (α : Type) where
  | bars (stamped : StampedBars α)
  | frame (table : Frame α)

def BarInput.toBars : BarInput α → Except FrameError (StampedBars α)
  | .bars stamped => .ok stamped
  | .frame table => table.toBars

def BarInput.toMarket : BarInput α → Except FrameError (Market α)
  | .bars stamped => .ok { stamped with further := fun _ => [] }
  | .frame table => table.toMarket

end IndicatorScript
