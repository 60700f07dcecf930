import IndicatorScript.CommandLine.Program
import IndicatorScript.Proofs.Csv.Regular
import Mathlib

/-!
# Tables of bars

The columns of a table are taken by their names in small letters, and its dates as time stamps if it has none. Neither
changes the columns of prices, the labels, or that the table is regular.
-/

namespace IndicatorScript.CommandLine

variable {frame : Frame Float}

/-! ## Names in small letters -/

/-- The columns are named in the letter case that they are found by. -/
def IsNormal (frame : Frame Float) : Prop := ∀ column ∈ frame.columns, normalName column.1 = column.1

theorem normalName_normalName (name : String) : normalName (normalName name) = normalName name := by
  rw [normalName, normalName, String.map_map]
  exact congrArg (String.map · name) (funext Char.toLower_toLower_eq_toLower)

theorem normalize_isNormal (frame : Frame Float) : IsNormal (normalize frame) := by
  intro column mem
  unfold normalize at mem
  dsimp only at mem
  split at mem
  · simp only [List.map_map, List.mem_map, Function.comp_apply] at mem
    rcases mem with ⟨given, -, rfl⟩
    dsimp only
    split
    · decide +kernel
    · exact normalName_normalName given.1
  · rcases List.mem_map.mp mem with ⟨given, -, rfl⟩
    exact normalName_normalName given.1

theorem IsNormal.missingColumns_eq_nil_iff {frame : Frame Float} (normal : IsNormal frame) :
    missingColumns (frame.columns.map (·.1)) = [] ↔ ∀ price, frame.Has price := by
  have same : frame.columns.map (·.1) = frame.columns.map fun column => normalName column.1 :=
    List.map_congr_left fun column mem => (normal column mem).symm
  rw [same, Frame.missingColumns_eq_iff, and_iff_right (List.nil_sublist _)]
  exact forall_congr' fun price => by simp

/-- The name that a column gets, given whether dates are taken as time stamps. -/
def foundName (dated : Bool) (name : String) : String :=
  if dated && normalName name = "date" then stampColumn else normalName name

def isDated (frame : Frame Float) : Bool :=
  let names := frame.columns.map fun (name, _) => normalName name
  names.contains "date" && !names.contains stampColumn

theorem normalize_eq (frame : Frame Float) :
    normalize frame =
      { frame with columns := frame.columns.map fun (name, cells) => (foundName (isDated frame) name, cells) } := by
  unfold normalize
  dsimp only
  rw [List.map_map]
  change (if isDated frame = true then _ else _) = _
  cases dated : isDated frame with
  | true =>
    rw [if_pos rfl, List.map_map]
    simp [foundName]
  | false =>
    rw [if_neg Bool.false_ne_true]
    simp [foundName]

theorem labels_normalize (frame : Frame Float) : (normalize frame).labels = frame.labels := by
  rw [normalize_eq]

theorem columnsOf_normalize (frame : Frame Float) (name : String) :
    (normalize frame).columnsOf name =
      (frame.columns.filter fun column => foundName (isDated frame) column.1 = name).map (·.2) := by
  have normal (given : String) : normalName (foundName (isDated frame) given) = foundName (isDated frame) given := by
    unfold foundName
    split
    · decide +kernel
    · exact normalName_normalName given
  rw [normalize_eq, Frame.columnsOf, List.filter_map, List.map_map]
  simp only [Function.comp_def, normal]

theorem columnsOf_normalize_price (frame : Frame Float) (price : Price) :
    (normalize frame).columnsOf price.columnName = frame.columnsOf price.columnName := by
  rw [columnsOf_normalize, Frame.columnsOf]
  refine congrArg (List.map Prod.snd) (List.filter_congr fun column _ => ?_)
  have noDate : "date" ≠ price.columnName := by cases price <;> decide
  have noStamp : stampColumn ≠ price.columnName := by cases price <;> decide
  unfold foundName
  split
  · next isDate =>
    rw [Bool.and_eq_true, decide_eq_true_eq] at isDate
    change _ = decide (normalName column.1 = price.columnName)
    rw [isDate.2, decide_eq_false noDate, decide_eq_false noStamp]
  · rfl

theorem columnsOf_eq_nil_iff {name : String} :
    frame.columnsOf name = [] ↔ (frame.columns.map fun (given, _) => normalName given).contains name = false := by
  simp [Frame.columnsOf, Bool.eq_false_iff]

theorem column?_normalize_stampColumn (frame : Frame Float) :
    (normalize frame).column? stampColumn = (frame.column? stampColumn).or (frame.column? "date") := by
  rw [Frame.column?, columnsOf_normalize, Frame.column?, Frame.column?]
  cases dated : isDated frame with
  | true =>
    rw [isDated, Bool.and_eq_true, Bool.not_eq_true'] at dated
    have stampless : frame.columnsOf stampColumn = [] := columnsOf_eq_nil_iff.mpr dated.2
    rw [stampless, List.head?_nil, Option.none_or, Frame.columnsOf]
    refine congrArg List.head? (congrArg (List.map Prod.snd) (List.filter_congr fun column mem => ?_))
    have noStamp : normalName column.1 ≠ stampColumn := by
      intro same
      have isIn : column.2 ∈ frame.columnsOf stampColumn :=
        List.mem_map_of_mem (List.mem_filter.mpr ⟨mem, decide_eq_true same⟩)
      rw [stampless] at isIn
      cases isIn
    by_cases isDate : normalName column.1 = "date"
    · simp [foundName, isDate]
    · simp [foundName, isDate, noStamp]
  | false =>
    have same : (frame.columns.filter fun column => foundName false column.1 = stampColumn).map (·.2) =
        frame.columnsOf stampColumn := by
      simp [foundName, Frame.columnsOf]
    rw [same]
    cases stamped : frame.columnsOf stampColumn with
    | cons column further => rfl
    | nil =>
      have noDate : frame.columnsOf "date" = [] := by
        rw [columnsOf_eq_nil_iff] at stamped ⊢
        rwa [isDated, stamped, Bool.not_false, Bool.and_true] at dated
      rw [noDate]
      rfl

theorem normalize_isRegular (regular : frame.IsRegular) : (normalize frame).IsRegular := by
  rw [normalize_eq]
  intro column mem
  rcases List.mem_map.mp mem with ⟨given, isIn, rfl⟩
  exact regular given isIn

/-! ## Tables that are read -/

theorem loadBars_isNormal (files : Files) (path : String) :
    Gives (fun table => IsNormal table.frame) (loadBars files path) :=
  (Gives.trivial (readTable files path)).bind fun text _ =>
    (Gives.trivial ((Csv.table text).mapError _)).bind fun table _ => .ok (normalize_isNormal table.frame)

theorem loadBars_isRegular (files : Files) (path : String) :
    Gives (fun table => table.frame.IsRegular) (loadBars files path) := by
  refine (Gives.trivial (readTable files path)).bind fun text _ => ?_
  refine Gives.bind (p := fun table => table.frame.IsRegular) (fun table read => ?_) fun table regular =>
    .ok (normalize_isRegular regular)
  cases given : Csv.table text with
  | error e =>
    rw [given] at read
    cases read
  | ok other =>
    rw [given] at read
    cases read
    exact Csv.table_isRegular text table given

theorem toMarket_normalize_isSingle (distinct : frame.Distinct) :
    Gives (fun market => market.isSingle = true) (normalize frame).toMarket := by
  refine Frame.toMarket_isSingle fun price => ?_
  rw [columnsOf_normalize_price]
  rcases Frame.columnsOf_cases distinct price.columnName with none | ⟨cells, one⟩
  · rw [none]
    exact Nat.zero_le 1
  · rw [one]
    exact Nat.le_refl 1

end IndicatorScript.CommandLine
