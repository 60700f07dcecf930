import IndicatorScript.Engine
import IndicatorScript.Proofs.Run.Prefix

/-!
# Bars in a table

Only the numbers in the price columns of a table come into an execution. The letter case of their names, their order,
the other columns and the row labels have no effect, as long as no two columns have one name (`execute_tabulated`). A
table that lacks some of the price columns is refused, and the refusal names those.
-/

namespace IndicatorScript

/-! ## Sublists of distinct entries -/

theorem filter_eq_of_sublist {β : Type} {part whole : List β} (sublist : part.Sublist whole) (distinct : whole.Nodup)
    {p : β → Bool} (mem : ∀ x ∈ whole, p x = true ↔ x ∈ part) : whole.filter p = part := by
  induction sublist with
  | slnil => rfl
  | cons x sublist ih =>
    rcases List.nodup_cons.mp distinct with ⟨fresh, distinct⟩
    have left : ¬ p x = true := fun kept => fresh (sublist.subset ((mem x List.mem_cons_self).mp kept))
    rw [List.filter_cons_of_neg left]
    exact ih distinct fun y isIn => mem y (List.mem_cons_of_mem x isIn)
  | cons_cons x sublist ih =>
    rcases List.nodup_cons.mp distinct with ⟨fresh, distinct⟩
    have kept : p x = true := (mem x List.mem_cons_self).mpr List.mem_cons_self
    rw [List.filter_cons_of_pos kept, ih distinct]
    intro y isIn
    have other : y ≠ x := fun same => fresh (same ▸ isIn)
    rw [mem y (List.mem_cons_of_mem x isIn), List.mem_cons, or_iff_right other]

theorem filter_eq_singleton {β γ : Type} [DecidableEq γ] {f : β → γ} {xs : List β} (distinct : (xs.map f).Nodup) {x : β}
    (mem : x ∈ xs) : xs.filter (f · = f x) = [x] := by
  induction xs with
  | nil => cases mem
  | cons y rest ih =>
    rw [List.map_cons, List.nodup_cons] at distinct
    rcases distinct with ⟨fresh, distinct⟩
    rcases List.mem_cons.mp mem with rfl | mem
    · have none : rest.filter (f · = f x) = [] := by
        rw [List.filter_eq_nil_iff]
        intro z isIn
        rw [decide_eq_true_eq]
        exact fun same => fresh (List.mem_map.mpr ⟨z, isIn, same⟩)
      rw [List.filter_cons, if_pos (decide_eq_true rfl), none]
    · have other : ¬ decide (f y = f x) = true := by
        rw [decide_eq_true_eq]
        exact fun same => fresh (List.mem_map.mpr ⟨x, mem, same.symm⟩)
      rw [List.filter_cons, if_neg other]
      exact ih distinct mem

variable {α : Type}

namespace Frame

/-- A column has the name of that price, in whichever letter case. -/
def Has (frame : Frame α) (price : Price) : Prop :=
  ∃ column ∈ frame.columns, normalName column.1 = price.columnName

/-- No two columns have one name, even in different letter cases. -/
def Distinct (frame : Frame α) : Prop := (frame.columns.map fun column => normalName column.1).Nodup

variable {frame : Frame α}

/-! ## Columns by name -/

theorem columnsOf_of_mem (distinct : frame.Distinct) {given : String} {cells : List (Cell α)}
    (mem : (given, cells) ∈ frame.columns) : frame.columnsOf (normalName given) = [cells] := by
  have found := filter_eq_singleton distinct mem
  simp only [columnsOf] at found ⊢
  rw [found]
  rfl

theorem columnsOf_cases (distinct : frame.Distinct) (name : String) :
    frame.columnsOf name = [] ∨ ∃ cells, frame.columnsOf name = [cells] := by
  by_cases has : ∃ column ∈ frame.columns, normalName column.1 = name
  · rcases has with ⟨⟨given, cells⟩, mem, rfl⟩
    exact .inr ⟨cells, columnsOf_of_mem distinct mem⟩
  · refine .inl ?_
    rw [columnsOf, List.map_eq_nil_iff, List.filter_eq_nil_iff]
    intro column mem
    rw [decide_eq_true_eq]
    exact fun same => has ⟨column, mem, same⟩

theorem exists_stamps (distinct : frame.Distinct) : ∃ stamps, frame.stamps = .ok stamps := by
  unfold stamps
  rcases columnsOf_cases distinct stampColumn with none | ⟨cells, one⟩
  · rw [none]
    exact ⟨_, rfl⟩
  · rw [one]
    exact ⟨_, rfl⟩

/-! ## Missing columns -/

theorem columnName_mem_names (frame : Frame α) (price : Price) :
    price.columnName ∈ (frame.columns.map fun (name, _) => normalName name) ↔ frame.Has price := by
  simp [Has]

theorem mem_missingColumns_iff (price : Price) :
    price.columnName ∈ missingColumns (frame.columns.map fun (name, _) => normalName name) ↔ ¬ frame.Has price := by
  rw [missingColumns, List.mem_filter, ← columnName_mem_names]
  have isOne : price.columnName ∈ Price.columns.map Price.columnName := by
    cases price <;> decide
  simp [isOne]

/-- The names of the price columns, less those that the table has. -/
theorem missingColumns_eq_iff {names : List String} :
    missingColumns (frame.columns.map fun (name, _) => normalName name) = names ↔
      names.Sublist ["open", "high", "low", "close", "volume"] ∧
        ∀ price, price.columnName ∈ names ↔ ¬ frame.Has price := by
  constructor
  · rintro rfl
    exact ⟨List.filter_sublist, mem_missingColumns_iff⟩
  · rintro ⟨sublist, mem⟩
    refine filter_eq_of_sublist sublist (by decide) fun name isIn => ?_
    have isOne : name ∈ Price.columns.map Price.columnName := isIn
    rcases List.mem_map.mp isOne with ⟨price, -, rfl⟩
    rw [mem, ← mem_missingColumns_iff, missingColumns, List.mem_filter, and_iff_right isOne]

end Frame

/-! ## Reading the table -/

theorem Yields.mapM {β γ ε : Type} {p : γ → Prop} {q : ε → Prop} {f : β → Except ε γ} {xs : List β}
    (each : ∀ x ∈ xs, Yields p q (f x)) : Yields (fun ys => ∀ y ∈ ys, p y) q (xs.mapM f) := by
  induction xs with
  | nil => exact fun _ => nofun
  | cons x rest ih =>
    rw [List.mapM_cons]
    refine (each x List.mem_cons_self).bind fun y holds => ?_
    refine (ih fun z mem => each z (List.mem_cons_of_mem x mem)).bind fun ys all => ?_
    exact List.forall_mem_cons.mpr ⟨holds, all⟩

def FrameError.IsMissing (e : FrameError) : Prop := ∃ names, e = .missingColumns names

theorem Frame.stamps_yields (frame : Frame α) : Yields (fun _ => True) (¬ ·.IsMissing) frame.stamps := by
  unfold stamps
  split
  · trivial
  · trivial
  · rintro ⟨_, same⟩
    cases same

variable [Number α] [Literal α]

theorem Cell.toNumber_yields (cell : Cell α) : Yields (fun _ => True) (¬ ·.IsMissing) cell.toNumber := by
  cases cell with
  | integer i =>
    rw [toNumber]
    cases Number.ofInt? (α := α) i with
    | some x => trivial
    | none =>
      rintro ⟨_, same⟩
      cases same
  | text s =>
    rw [toNumber]
    cases Literal.read? (α := α) s with
    | some x => trivial
    | none =>
      rintro ⟨_, same⟩
      cases same
  | number | flag | missing => trivial

namespace Frame

variable {frame : Frame α} {bars : List (Bar α)}

theorem prices_yields (frame : Frame α) (price : Price) :
    Yields (fun _ => True) (¬ ·.IsMissing) (frame.prices price) := by
  have numbers (cells : List (Cell α)) : Yields (fun _ => True) (¬ ·.IsMissing) (cells.mapM Cell.toNumber) :=
    (Yields.mapM fun cell _ => cell.toNumber_yields).mono (fun _ _ => trivial) fun _ => id
  exact (Yields.mapM fun cells _ => numbers cells).mono (fun _ _ => trivial) fun _ => id

theorem toMarket_eq_missing_iff {names : List String} :
    frame.toMarket = .error (.missingColumns names) ↔
      names ≠ [] ∧ names.Sublist ["open", "high", "low", "close", "volume"] ∧
        ∀ price, price.columnName ∈ names ↔ ¬ frame.Has price := by
  rw [← missingColumns_eq_iff]
  unfold toMarket
  split
  · next none =>
    rw [none]
    refine iff_of_false (fun failed => ?_) fun same => same.1 same.2.symm
    refine Yields.fails (p := fun _ => True) (q := fun e => ¬ e.IsMissing) ?_ failed ⟨names, rfl⟩
    exact (frame.prices_yields .opening).bind fun _ _ => (frame.prices_yields .high).bind fun _ _ =>
      (frame.prices_yields .low).bind fun _ _ => (frame.prices_yields .close).bind fun _ _ =>
      (frame.prices_yields .volume).bind fun _ _ => frame.stamps_yields.bind fun _ _ => trivial
  · next some =>
    constructor
    · intro failed
      cases failed
      exact ⟨some, rfl⟩
    · rintro ⟨-, same⟩
      rw [same]

theorem toBars_eq_missing_iff {names : List String} :
    frame.toBars = .error (.missingColumns names) ↔
      names ≠ [] ∧ names.Sublist ["open", "high", "low", "close", "volume"] ∧
        ∀ price, price.columnName ∈ names ↔ ¬ frame.Has price := by
  rw [← toMarket_eq_missing_iff, toBars]
  cases frame.toMarket with
  | error e =>
    exact ⟨fun same => congrArg Except.error (Except.error.inj same),
      fun same => congrArg Except.error (Except.error.inj same)⟩
  | ok market =>
    refine iff_of_false (fun refused => ?_) nofun
    change market.toBars = _ at refused
    unfold Market.toBars at refused
    split at refused <;> cases refused

/-! ## Tables of bars -/

/-- The prices of the bars stand in a column each, and no two columns have one name. -/
structure Tabulates (frame : Frame α) (bars : List (Bar α)) : Prop where
  distinct : frame.Distinct
  columns : ∀ price : Price, ∃ column ∈ frame.columns, normalName column.1 = price.columnName ∧
    column.2.mapM Cell.toNumber = .ok (bars.map (·.price price))

theorem prices_of_column (distinct : frame.Distinct) {column : String × List (Cell α)} (mem : column ∈ frame.columns)
    {price : Price} (named : normalName column.1 = price.columnName) :
    frame.prices price = (column.2.mapM Cell.toNumber).map ([·]) := by
  rw [prices, ← named, columnsOf_of_mem distinct mem]
  simp only [List.mapM_cons, List.mapM_nil]
  cases column.2.mapM Cell.toNumber <;> rfl

omit [Number α] [Literal α] in
theorem rows_of_bars (bars : List (Bar α)) :
    rows (bars.map (·.price .opening)) (bars.map (·.price .high)) (bars.map (·.price .low)) (bars.map (·.price .close))
      (bars.map (·.price .volume)) = bars := by
  induction bars with
  | nil => rfl
  | cons bar rest ih =>
    simp only [List.map_cons, rows, ih]
    rfl

theorem toBars_of_prices (distinct : frame.Distinct) (complete : ∀ price, frame.Has price) {values : Price → List α}
    (reads : ∀ price, frame.prices price = .ok [values price]) :
    ∃ stamps, frame.toBars =
      .ok ⟨stamps, rows (values .opening) (values .high) (values .low) (values .close) (values .volume)⟩ := by
  have none : missingColumns (frame.columns.map fun (name, _) => normalName name) = [] := by
    rw [missingColumns_eq_iff]
    exact ⟨List.nil_sublist _, fun price => iff_of_false List.not_mem_nil fun lacks => lacks (complete price)⟩
  rcases exists_stamps distinct with ⟨stamps, given⟩
  refine ⟨stamps, ?_⟩
  simp only [toBars, toMarket, none, reads, given, bind, Except.bind]
  rfl

theorem toBars_of_tabulates (tabulates : frame.Tabulates bars) : ∃ stamps, frame.toBars = .ok ⟨stamps, bars⟩ := by
  have complete (price : Price) : frame.Has price :=
    (tabulates.columns price).imp fun _ ⟨mem, named, _⟩ => ⟨mem, named⟩
  have reads (price : Price) : frame.prices price = .ok [bars.map (·.price price)] := by
    rcases tabulates.columns price with ⟨column, mem, named, numbers⟩
    rw [prices_of_column tabulates.distinct mem named, numbers]
    rfl
  rcases toBars_of_prices tabulates.distinct complete reads with ⟨stamps, read⟩
  rw [rows_of_bars] at read
  exact ⟨stamps, read⟩

/-- Where the price columns are numbers, and no two columns have one name, only a missing column is refused. -/
theorem toBars_fails_iff (distinct : frame.Distinct)
    (numeric : ∀ column ∈ frame.columns, ∀ price : Price, normalName column.1 = price.columnName →
      ∃ values, column.2.mapM Cell.toNumber = .ok values) :
    (∃ e, frame.toBars = .error e) ↔ ∃ price, ¬ frame.Has price := by
  constructor
  · rintro ⟨e, failed⟩
    refine Classical.not_forall.mp fun complete => ?_
    have prices (price : Price) : ∃ values, frame.prices price = .ok [values] := by
      rcases complete price with ⟨column, mem, named⟩
      rcases numeric column mem price named with ⟨values, numbers⟩
      refine ⟨values, ?_⟩
      rw [prices_of_column distinct mem named, numbers]
      rfl
    rcases Classical.skolem.mp prices with ⟨values, reads⟩
    rcases toBars_of_prices distinct complete reads with ⟨stamps, read⟩
    rw [read] at failed
    cases failed
  · rintro ⟨price, lacks⟩
    have missing := missingColumns_eq_iff.mp
      (Eq.refl (missingColumns (frame.columns.map fun (name, _) => normalName name)))
    exact ⟨_, toBars_eq_missing_iff.mpr ⟨List.ne_nil_of_mem ((missing.2 price).mpr lacks), missing⟩⟩

end Frame

theorem execute_tabulated :
    (∀ (frame : Frame α) (bars : List (Bar α)), frame.Tabulates bars → ∀ stamps limits parameters,
      (∀ script : Script α, script.execute limits (.frame frame) parameters =
        script.execute limits (.bars ⟨stamps, bars⟩) parameters) ∧
      ∀ source, executeSource limits source (.frame frame) parameters =
        executeSource limits source (.bars ⟨stamps, bars⟩) parameters) ∧
    ∀ frame : Frame α,
      (∀ names, frame.toBars = .error (.missingColumns names) ↔
        names ≠ [] ∧ names.Sublist ["open", "high", "low", "close", "volume"] ∧
          ∀ price, price.columnName ∈ names ↔ ¬ frame.Has price) ∧
      (frame.Distinct →
        (∀ column ∈ frame.columns, ∀ price : Price, normalName column.1 = price.columnName →
          ∃ values, column.2.mapM Cell.toNumber = .ok values) →
        ((∃ e, frame.toBars = .error e) ↔ ∃ price, ¬ frame.Has price)) := by
  refine ⟨fun frame bars tabulates stamps limits parameters => ?_, fun frame =>
    ⟨fun names => Frame.toBars_eq_missing_iff, Frame.toBars_fails_iff⟩⟩
  rcases Frame.toBars_of_tabulates tabulates with ⟨stamps', read⟩
  have executes (script : Script α) : script.execute limits (.frame frame) parameters =
      script.execute limits (.bars ⟨stamps, bars⟩) parameters := by
    simp only [Script.execute, BarInput.toBars, read]
  refine ⟨executes, fun source => ?_⟩
  unfold executeSource
  cases compile (α := α) limits source with
  | ok script => exact executes script
  | error e => rfl

namespace Sample

def shuffled : Frame Float where
  columns :=
    [("CLOSE", [.integer 2, .number 4.0, .number 5.0]), ("note", [.text "a", .missing, .text "b"]),
      ("Volume", [.number 10.0, .integer 20, .number 30.0]), ("oPeN", [.flag true, .number 2.0, .number 4.0]),
      ("High", [.number 3.0, .number 5.0, .number 6.0]), ("low", [.number 1.0, .number 2.0, .number 3.0])]
  labels := [.text "z", .integer 7, .text "z"]

theorem shuffled_tabulates : shuffled.Tabulates bars := by
  refine ⟨?_, fun price => ?_⟩
  · unfold Frame.Distinct
    decide +kernel
  · cases price with
    | opening => exact ⟨shuffled.columns[3], List.getElem_mem _, by decide +kernel, rfl⟩
    | high => exact ⟨shuffled.columns[4], List.getElem_mem _, by decide +kernel, rfl⟩
    | low => exact ⟨shuffled.columns[5], List.getElem_mem _, by decide +kernel, rfl⟩
    | close => exact ⟨shuffled.columns[0], List.getElem_mem _, by decide +kernel, rfl⟩
    | volume => exact ⟨shuffled.columns[2], List.getElem_mem _, by decide +kernel, rfl⟩

def scant : Frame Float where
  columns := [("LOW", [.integer 2]), ("open", [.number 1.0])]
  labels := [.integer 0]

theorem scant_distinct : scant.Distinct := by
  unfold Frame.Distinct
  decide +kernel

theorem scant_numeric : ∀ column ∈ scant.columns, ∀ price : Price, normalName column.1 = price.columnName →
    ∃ values, column.2.mapM Cell.toNumber = .ok values := by
  intro column mem _ _
  simp only [scant, List.mem_cons, List.not_mem_nil, or_false] at mem
  rcases mem with rfl | rfl
  · exact ⟨_, rfl⟩
  · exact ⟨_, rfl⟩

theorem scant_has (price : Price) : price.columnName ∈ ["high", "close", "volume"] ↔ ¬ scant.Has price := by
  unfold Frame.Has
  cases price <;> decide +kernel

end Sample

theorem execute_tabulated_sample :
    Sample.shuffled.Tabulates Sample.bars ∧
      Script.execute ⟨Sample.travelled⟩ {} (.frame Sample.shuffled) {} =
        Script.execute ⟨Sample.travelled⟩ {} (.bars ⟨[], Sample.bars⟩) {} ∧
      Sample.scant.toBars = .error (.missingColumns ["high", "close", "volume"]) ∧
      ((∃ e, Sample.scant.toBars = .error e) ↔ ∃ price, ¬ Sample.scant.Has price) :=
  ⟨Sample.shuffled_tabulates,
    (execute_tabulated.1 Sample.shuffled Sample.bars Sample.shuffled_tabulates [] {} {}).1 ⟨Sample.travelled⟩,
    ((execute_tabulated.2 Sample.scant).1 _).mpr ⟨by decide, by decide, Sample.scant_has⟩,
    (execute_tabulated.2 Sample.scant).2 Sample.scant_distinct Sample.scant_numeric⟩

end IndicatorScript
