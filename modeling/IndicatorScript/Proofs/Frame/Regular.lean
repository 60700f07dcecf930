import IndicatorScript.Proofs.Frame.Columns

/-!
# Regular tables

A table is regular if every column has a cell for each row label. The columns of numbers that are read from it then have
a number at each bar (`toMarket_isRegular`). As many of them are read for a price as there are columns of it
(`toMarket_isSingle`).
-/

namespace IndicatorScript

theorem Gives.length_mapM {β γ ε : Type} (f : β → Except ε γ) (xs : List β) :
    Gives (fun ys => ys.length = xs.length) (xs.mapM f) := by
  induction xs with
  | nil => exact .ok rfl
  | cons x rest ih =>
    rw [List.mapM_cons]
    refine (Gives.trivial (f x)).bind fun y _ => ih.bind fun ys length => .ok ?_
    rw [List.length_cons, List.length_cons, length]

variable {α : Type}

def Frame.IsRegular (frame : Frame α) : Prop :=
  ∀ column ∈ frame.columns, column.2.length = frame.labels.length

def Market.IsRegular (market : Market α) : Prop :=
  ∀ price, ∀ values ∈ market.further price, values.length = market.bars.length

/-- Bars are given one by one, or in a table that is regular. -/
def BarInput.IsRegular : BarInput α → Prop
  | .bars _ => True
  | .frame table => table.IsRegular

namespace Frame

theorem length_rows {n : Nat} {opening high low close volume : List α} (isOpening : opening.length = n)
    (isHigh : high.length = n) (isLow : low.length = n) (isClose : close.length = n) (isVolume : volume.length = n) :
    (rows opening high low close volume).length = n := by
  induction n generalizing opening high low close volume with
  | zero =>
    rw [List.length_eq_zero_iff] at isOpening
    rw [isOpening]
    rfl
  | succ n ih =>
    match opening, high, low, close, volume with
    | o :: opening, h :: high, l :: low, c :: close, v :: volume =>
      simp only [List.length_cons, Nat.add_right_cancel_iff] at isOpening isHigh isLow isClose isVolume
      rw [rows, List.length_cons, ih isOpening isHigh isLow isClose isVolume]

/-- The columns of a price: one or more, with so many numbers each. -/
def Fill (rows : Nat) (columns : List (List α)) : Prop := columns ≠ [] ∧ ∀ values ∈ columns, values.length = rows

theorem Fill.length_headD {rows : Nat} {columns : List (List α)} (fill : Fill rows columns) :
    (columns.headD []).length = rows := by
  cases columns with
  | nil => exact absurd rfl fill.1
  | cons values rest => exact fill.2 values List.mem_cons_self

theorem Fill.length_of_mem_tail {rows : Nat} {columns : List (List α)} (fill : Fill rows columns) {values : List α}
    (mem : values ∈ columns.tail) : values.length = rows :=
  fill.2 values (List.mem_of_mem_tail mem)

variable [Number α] [Literal α] {frame : Frame α}

theorem prices_fill (regular : frame.IsRegular) {price : Price} (has : frame.Has price) :
    Gives (Fill frame.labels.length) (frame.prices price) := by
  have lengths : ∀ cells ∈ frame.columnsOf price.columnName, Yields
      (fun values : List α => values.length = frame.labels.length) (fun _ => True) (cells.mapM Cell.toNumber) := by
    intro cells mem
    rcases List.mem_map.mp mem with ⟨column, isOne, rfl⟩
    have length := regular column (List.mem_filter.mp isOne).1
    exact .of_gives ((Gives.length_mapM Cell.toNumber column.2).mono fun values same => same.trans length)
  intro columns read
  refine ⟨fun none => ?_, (Yields.mapM lengths).gives columns read⟩
  have counted := Gives.length_mapM _ _ columns read
  rw [none, List.length_nil, eq_comm, List.length_eq_zero_iff] at counted
  rcases has with ⟨column, mem, named⟩
  have isIn : column.2 ∈ frame.columnsOf price.columnName :=
    List.mem_map_of_mem (List.mem_filter.mpr ⟨mem, decide_eq_true named⟩)
  rw [counted] at isIn
  cases isIn

theorem toMarket_isRegular (regular : frame.IsRegular) :
    Gives (fun market => market.bars.length = frame.labels.length ∧ market.IsRegular) frame.toMarket := by
  unfold toMarket
  split
  · next none =>
    have has (price : Price) : frame.Has price :=
      Classical.byContradiction fun lacks => List.not_mem_nil (none ▸ (mem_missingColumns_iff price).mpr lacks)
    refine (prices_fill regular (has .opening)).bind fun opening isOpening => ?_
    refine (prices_fill regular (has .high)).bind fun high isHigh => ?_
    refine (prices_fill regular (has .low)).bind fun low isLow => ?_
    refine (prices_fill regular (has .close)).bind fun close isClose => ?_
    refine (prices_fill regular (has .volume)).bind fun volume isVolume => ?_
    refine (Gives.trivial frame.stamps).bind fun stamps _ => .ok ?_
    have length := length_rows isOpening.length_headD isHigh.length_headD isLow.length_headD isClose.length_headD
      isVolume.length_headD
    refine ⟨length, fun price values mem => ?_⟩
    rw [length]
    cases price with
    | opening => exact isOpening.length_of_mem_tail mem
    | high => exact isHigh.length_of_mem_tail mem
    | low => exact isLow.length_of_mem_tail mem
    | close => exact isClose.length_of_mem_tail mem
    | volume => exact isVolume.length_of_mem_tail mem
  · exact .error _

theorem toMarket_isSingle (one : ∀ price : Price, (frame.columnsOf price.columnName).length ≤ 1) :
    Gives (fun market => market.isSingle = true) frame.toMarket := by
  have tailless (price : Price) : Gives (·.tail = []) (frame.prices price) :=
    (Gives.length_mapM _ _).mono fun columns length => by
      refine List.length_eq_zero_iff.mp ?_
      rw [List.length_tail, length]
      exact Nat.sub_eq_zero_of_le (one price)
  unfold toMarket
  split
  · refine (tailless .opening).bind fun opening isOpening => (tailless .high).bind fun high isHigh => ?_
    refine (tailless .low).bind fun low isLow => (tailless .close).bind fun close isClose => ?_
    refine (tailless .volume).bind fun volume isVolume => (Gives.trivial frame.stamps).bind fun stamps _ => .ok ?_
    simp [Market.isSingle, Price.columns, Price.pick, isOpening, isHigh, isLow, isClose, isVolume]
  · exact .error _

end Frame

theorem BarInput.toMarket_isRegular [Number α] [Literal α] {input : BarInput α} (regular : input.IsRegular) :
    Gives Market.IsRegular input.toMarket := by
  cases input with
  | bars stamped =>
    refine .ok fun price values mem => ?_
    cases mem
  | frame table => exact (Frame.toMarket_isRegular regular).mono fun market isRegular => isRegular.2

end IndicatorScript
