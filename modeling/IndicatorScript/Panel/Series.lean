import IndicatorScript.Expr.Operand
import IndicatorScript.Frame

/-!
# Series with several columns

Bars may have several columns of one price. A series of that price then has a column for each of them, and so have the
averages, extremes and bands of such a series. Nothing else can be made of it: an operation on several columns fails.
-/

namespace IndicatorScript.Panel

open Number

abbrev Table (α : Type) := List (Price × List α)

inductive Series (α : Type) where
  | single (values : List α)
  | several (table : Table α)

variable {α : Type}

namespace Series

def ofColumns (price : Price) : List (List α) → Series α
  | [values] => .single values
  | columns => .several (columns.map fun values => (price, values))

def width : Series α → Nat
  | .single _ => 1
  | .several table => table.length

def front : Series α → List α
  | .single values => values
  | .several table => (table.head?.map (·.2)).getD []

def mapColumns (f : List α → List α) : Series α → Series α
  | .single values => .single (f values)
  | .several table => .several (table.map fun column => (column.1, f column.2))

end Series

/-! ## Relative strength -/

section Strength

variable [Number α]

def rowsOf (table : Table α) : List (List α) :=
  match table with
  | [] => []
  | (_, values) :: rest =>
      rest.foldl (fun rows column => List.zipWith (fun row x => row ++ [x]) rows column.2) (values.map ([·]))

def fallAcross : List α → α
  | [x, y] => Indicator.fall (y - x)
  | _ => nan

/-- What ends the smoothing of the falls after the first ones, given how many rows there are. An average loss that is
not zero makes an index of one column, which is no number; after the last row there is no place for one. -/
def strengthFailure (length size : Nat) (loss : α) : List α → ColumnError
  | fall :: next :: rest =>
      let loss := Indicator.wilder length loss fall
      if isZero loss then strengthFailure length size loss (next :: rest) else .sequenceAsNumber
  | _ => .outOfRange size size

/-- The index counts the changes from one column to the next, and does not get to the end of them. -/
def strength (length : Nat) (table : Table α) : Except ColumnError (List α) :=
  let rows := rowsOf table
  let started := rows.dropWhile (·.all isNaN)
  if started.length ≤ length then .ok (rows.map fun _ => nan)
  else if table.length ≠ 2 then .error .truthOfSeveral
  else
    let falls := started.map fallAcross
    let loss := sum (falls.take length) / ofNat length
    .error (strengthFailure length started.length loss (falls.drop length))

def Series.windowed (indicator : Windowed) (length : Nat) (series : Series α) : Except (EvalError α) (Series α) :=
  match indicator, series with
  | .rsi, .several table => ((strength length table).mapError .columns).map .single
  | indicator, series => .ok (series.mapColumns (indicator.apply length))

end Strength

/-! ## Averages of prices -/

section Composite

variable [Number α]

def Composite.prices : Composite → List Price
  | .highLow => [.high, .low]
  | .highLowClose => [.high, .low, .close]
  | .openHighLowClose => [.opening, .high, .low, .close]

/-- The average of prices. Columns of different prices have no names in common, so nothing is defined where they meet,
and they cannot meet with a single one unless there are no bars. -/
def composite (bars : List (Bar α)) (further : Price → List (List α)) (average : Composite) :
    Except (EvalError α) (Series α) :=
  let prices := Composite.prices average
  let repeated := prices.filter fun price => !(further price).isEmpty
  if repeated.isEmpty then .ok (.single (bars.map (·.composite average)))
  else if repeated ≠ prices ∧ !bars.isEmpty then .error (.columns .repeatedNames)
  else
    .ok (.several (repeated.flatMap fun price =>
      List.replicate ((further price).length + 1) (price, bars.map fun _ => nan)))

end Composite

/-! ## Operations -/

inductive Operand (α : Type) where
  | scalar (x : α)
  | series (values : Series α)

namespace Operand

def single? : Operand α → Option (IndicatorScript.Operand α)
  | .scalar x => some (.scalar x)
  | .series (.single values) => some (.series values)
  | .series (.several _) => none

def clash : Operand α → Operand α → Bool
  | .series (.single values), .series (.several _) | .series (.several _), .series (.single values) => !values.isEmpty
  | _, _ => false

variable [Number α]

def hasZero : Operand α → Bool
  | .scalar x => isZero x
  | .series (.single values) => values.any isZero
  | .series (.several table) => table.any fun column => column.2.any isZero

def abs (bars : Nat) (x : Operand α) : Except (EvalError α) (Series α) :=
  match x.single? with
  | some x => .ok (.single (x.map bars Number.abs))
  | none => .error .severalColumns

def choiceError (which : Choice) : Operand α → Operand α → EvalError α
  | .series (.several first), .series (.several second) =>
      if first.map (·.1) = second.map (·.1) then .severalColumns else .columns .repeatedNames
  | .series _, .series _ => .columns (.besideSeries which)
  | _, _ => .severalColumns

def choose (bars : Nat) (which : Choice) (x y : Operand α) : Except (EvalError α) (Series α) :=
  match x.single?, y.single? with
  | some x, some y => do
      x.checkAligned y
      .ok (.single (x.zipWith bars which.apply y))
  | _, _ => .error (choiceError which x y)

end Operand

variable [Number α]

def operationError (op : Operator) (x y : Operand α) : EvalError α :=
  match op with
  | .arithmetic op =>
      if op = .divide ∧ y.hasZero then .divisionByZero
      else if x.clash y then .columns .repeatedNames
      else .severalColumns
  | .test _ => .severalColumns
  | .unknown symbol => .unknownOperator symbol

def applySeries (bars : Nat) (op : Operator) (x y : Operand α) : Except (EvalError α) (Series α) :=
  match x.single?, y.single? with
  | some x, some y => (op.applySeries bars x y).map .single
  | _, _ => .error (operationError op x y)

end IndicatorScript.Panel
