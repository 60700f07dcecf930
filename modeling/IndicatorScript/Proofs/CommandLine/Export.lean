import IndicatorScript.Proofs.CommandLine.Exit

/-!
# Exported series

What a run writes of a script that succeeds: a row for each bar, with its time stamp and the value plotted there. Where
a table has no column of time stamps and a script plots nothing, the run ends without a result instead, unless there
are no bars (`run_exports`).
-/

namespace IndicatorScript

namespace CommandLine

variable {host : Host} {options : Options} {settings : Settings} {log : Option String} {source : String}
  {table : Csv.Table} {parameters : Bindings (Value Float)} {execution : Execution Float} {rows : List ExportRow}
  {frame : Frame Float}

/-! ## Rows -/

/-- The lines of an exported series: a time stamp and the value beside it, or nothing where there is no value. -/
def exportedLines (stamps : List (Cell Float)) (values : List Float) : List (List String) :=
  stamps.mapIdx fun i stamp => [Csv.writtenCell stamp, (values[i]?.map Csv.writtenNumber).getD ""]

theorem pairRows_eq (stamps : List (Cell Float)) (values : List Float) :
    pairRows stamps values = stamps.mapIdx fun i stamp => ⟨some stamp, values[i]?⟩ := by
  induction stamps generalizing values with
  | nil => rfl
  | cons stamp rest ih =>
    cases values with
    | nil => simp [pairRows, ih, List.mapIdx_cons]
    | cons x xs => simp [pairRows, ih, List.mapIdx_cons]

theorem writtenStamps_of_forall {stamps : List (Cell Float)} {row : Nat → Cell Float → ExportRow}
    (stamped : ∀ i stamp, (row i stamp).stamp = some stamp) :
    writtenStamps (stamps.mapIdx row) = stamps.map Csv.writtenCell := by
  have noGap : ((stamps.mapIdx row).any fun row => row.stamp.isNone) = false := by
    rw [List.any_eq_false]
    intro row' mem
    rcases List.mem_mapIdx.mp mem with ⟨i, lt, rfl⟩
    simp [stamped]
  unfold writtenStamps
  dsimp only
  rw [noGap]
  refine List.ext_getElem (by simp) fun i lt lt' => ?_
  simp [stamped]

theorem exportText_pairRows (stamps : List (Cell Float)) (values : List Float) :
    exportText (pairRows stamps values) =
      Csv.writtenLines (["timestamp", "value"] :: exportedLines stamps values) := by
  rw [exportText, pairRows_eq, writtenStamps_of_forall fun _ _ => rfl]
  refine congrArg (fun lines => Csv.writtenLines (_ :: lines)) ?_
  refine List.ext_getElem (by simp [exportedLines]) fun i lt lt' => ?_
  simp [exportedLines]

/-! ## Exports -/

def Reads (files : Files) (options : Options) (raw : Csv.Table) : Prop :=
  ∃ path text, nonempty options.csv = some path ∧ readTable files path = .ok text ∧ Csv.table text = .ok raw

/-- The time stamps of a table: the column of that name, or else the dates, or else the positions of the rows. -/
def stampsOf (frame : Frame Float) : List (Cell Float) :=
  ((frame.column? stampColumn).or (frame.column? "date")).getD
    ((List.range frame.labels.length).map fun (i : Nat) => .integer i)

variable {raw : Csv.Table}

theorem Reads.loaded (reads : Reads host.files options raw) (tabled : Tabled host options settings log source table) :
    table = { raw with frame := normalize raw.frame } := by
  rcases reads with ⟨path, text, named, read, isTable⟩
  rcases tabled.loads with ⟨path', named', loaded⟩
  cases named.symm.trans named'
  unfold loadBars at loaded
  rw [read] at loaded
  dsimp only [bind, Except.bind] at loaded
  rw [isTable] at loaded
  cases loaded
  rfl

theorem Reads.isRegular (reads : Reads host.files options raw) : raw.frame.IsRegular := by
  rcases reads with ⟨_, text, -, -, isTable⟩
  exact Csv.table_isRegular text raw isTable

theorem Reads.labels_eq (reads : Reads host.files options raw) (plain : raw.labelParts = 0) :
    raw.frame.labels = (List.range raw.frame.labels.length).map fun (i : Nat) => .integer i := by
  rcases reads with ⟨_, text, -, -, isTable⟩
  exact Csv.labels_of_plain isTable plain

theorem length_stampsOf (regular : frame.IsRegular) : (stampsOf frame).length = frame.labels.length := by
  have length {name : String} {cells : List (Cell Float)} (found : frame.column? name = some cells) :
      cells.length = frame.labels.length := by
    rcases List.mem_map.mp (List.mem_of_head? found) with ⟨column, mem, rfl⟩
    exact regular column (List.mem_filter.mp mem).1
  unfold stampsOf
  cases stamped : frame.column? stampColumn with
  | some cells => exact length stamped
  | none =>
    cases dated : frame.column? "date" with
    | some cells => exact length dated
    | none => simp

/-- What a script that succeeds has read and plotted, if there is one column of each price. -/
theorem Executed.exists_market
    (executed : Executed host options settings log source table parameters execution)
    (succeeds : execution.failure = none) (single : Gives (fun market => market.isSingle = true) table.frame.toMarket) :
    ∃ (script : Script Float) (market : Market Float),
      compile settings.limits source = .ok script ∧ table.frame.toMarket = .ok market ∧ execution.width = 1 ∧
      execution.series.length = if script.statements.any Statement.isPlot then market.bars.length else 0 := by
  rcases validate_eq_none_iff.mp executed.valid with ⟨script, compiled⟩
  have ran := executed.runsScript
  rw [executed.executeSource_eq compiled] at ran
  rcases exists_perform_of_execute ran with ⟨market, read, performed⟩
  rw [script.perform_single settings.limits (single market read)] at performed
  rcases exists_run_of_execute performed succeeds with ⟨stamped, after, plot, same, run, rfl⟩
  cases same
  have yields := Context.run_yields (Context.aligned_fresh market.bars parameters) settings.limits script.statements
  rw [run] at yields
  exact ⟨script, market, compiled, read, rfl, yields⟩

theorem exportRows_of_fits {values : List Float} (plain : raw.labelParts = 0)
    (labels : raw.frame.labels = (List.range raw.frame.labels.length).map fun (i : Nat) => .integer i)
    (fits : (raw.frame.column? stampColumn).isSome = true ∨ (raw.frame.column? "date").isSome = true ∨
      values.length = raw.frame.labels.length) :
    exportRows { raw with frame := normalize raw.frame } values = .ok (pairRows (stampsOf raw.frame) values) := by
  unfold exportRows stampsOf
  dsimp only
  rw [column?_normalize_stampColumn, labels_normalize]
  cases found : (raw.frame.column? stampColumn).or (raw.frame.column? "date") with
  | some stamps =>
    dsimp only
    rw [if_pos plain, Option.getD_some]
  | none =>
    rw [Option.or_eq_none_iff] at found
    rw [found.1, found.2] at fits
    have same : values.length = raw.frame.labels.length := by simpa using fits
    dsimp only
    rw [if_neg (not_not.mpr same.symm), Option.getD_none, ← labels]

theorem exportRows_of_unfit {values : List Float} (stampless : raw.frame.column? stampColumn = none)
    (dateless : raw.frame.column? "date" = none) (other : raw.frame.labels.length ≠ values.length) :
    exportRows { raw with frame := normalize raw.frame } values =
      .error (.lengthMismatch raw.frame.labels.length values.length) := by
  unfold exportRows
  dsimp only
  rw [column?_normalize_stampColumn, labels_normalize, stampless, dateless]
  dsimp only [Option.or]
  rw [if_pos other]

theorem run_exports {arguments : List String} {path : String} (accepts : Accepts host arguments options)
    (executed : Executed host options settings log source table parameters execution)
    (succeeds : execution.failure = none) (asked : nonempty options.exportTo = some path)
    (writable : checkTarget host.files path = .ok ()) (reads : Reads host.files options raw)
    (plain : raw.labelParts = 0)
    (distinct : raw.frame.Distinct) :
    ∃ (script : Script Float) (stamped : StampedBars Float),
      compile settings.limits source = .ok script ∧ table.frame.toBars = .ok stamped ∧
      execution.series.length = (if script.statements.any Statement.isPlot then stamped.bars.length else 0) ∧
      (stampsOf raw.frame).length = stamped.bars.length ∧
      let fits := (raw.frame.column? stampColumn).isSome = true ∨ (raw.frame.column? "date").isSome = true ∨
        script.statements.any Statement.isPlot = true ∨ stamped.bars = []
      (fits → ∃ lines, run host arguments = .ok {
        status := 0
        lines
        log
        exported := some {
          path := host.files.expand path
          packing := Csv.Packing.ofName? path
          text :=
            Csv.writtenLines (["timestamp", "value"] :: exportedLines (stampsOf raw.frame) execution.series) } }) ∧
      (¬ fits → run host arguments = .error (.unjoined (.lengthMismatch stamped.bars.length 0))) := by
  have named := accepts.hasSource.resolve_left (Bool.eq_false_iff.mp executed.runs)
  obtain rfl := reads.loaded executed.toTabled
  have isSingle := toMarket_normalize_isSingle distinct
  rcases executed.exists_market succeeds isSingle with ⟨script, market, compiled, read, width, plotted⟩
  have regular := reads.isRegular
  have length : market.bars.length = raw.frame.labels.length := by
    have length := (Frame.toMarket_isRegular (normalize_isRegular regular) market read).1
    rwa [labels_normalize] at length
  have bars := BarInput.toBars_of_isSingle (.frame (normalize raw.frame)) read (isSingle market read)
  have single : execution.width ≤ 1 := width.le
  refine ⟨script, market.toStampedBars, compiled, bars, plotted, (length_stampsOf regular).trans length.symm, ?_⟩
  intro fits
  refine ⟨fun fit => ?_, fun unfit => ?_⟩
  · have sameLength : (raw.frame.column? stampColumn).isSome = true ∨ (raw.frame.column? "date").isSome = true ∨
        execution.series.length = raw.frame.labels.length := by
      refine fit.imp_right (Or.imp_right fun plotsOrNone => ?_)
      rw [plotted, ← length]
      rcases plotsOrNone with plots | none
      · rw [if_pos plots]
      · rw [none, List.length_nil, ite_self]
    have joins := exportRows_of_fits plain (reads.labels_eq plain) sameLength
    have joined : Joined host options settings log source _ parameters execution _ :=
      ⟨executed, succeeds, single, joins⟩
    refine ⟨summary execution ++ ["Series exported to " ++ path], ?_⟩
    rw [accepts.run_eq, joined.runOptions_eq named, asked]
    dsimp only
    rw [writable, exportText_pairRows]
    rfl
  · simp only [fits, not_or, Option.isSome_iff_ne_none, not_not] at unfit
    rcases unfit with ⟨stampless, dateless, plotless, some⟩
    have empty : execution.series.length = 0 := by rw [plotted, if_neg plotless]
    have other : raw.frame.labels.length ≠ execution.series.length := by
      rw [empty, ← length]
      exact fun none => some (List.length_eq_zero_iff.mp none)
    have unjoined := exportRows_of_unfit stampless dateless other
    rw [empty, ← length] at unjoined
    exact accepts.crashes (.rows executed succeeds single unjoined)

/-! ## Samples -/

deriving instance DecidableEq for Cell
deriving instance DecidableEq for Frame
deriving instance DecidableEq for Csv.Table

namespace Sample

def holding (text : String) : Host where
  interpreter := .unbounded
  files := {
    read path := if path = "bars.csv" then .ok text else .error .missing
    readPacked _ _ := .error .missing
    isDirectory _ := .ok true
    blocked? _ := none
    logBlocked? _ := none
    home? _ := none }

def exporting (source : String) : Options where
  csv := some (.text "bars.csv")
  source := some (.text source)
  exportTo := some (.text "out.csv")

def argumentsOf (source : String) : List String := ["--csv", "bars.csv", "--source", source, "--export", "out.csv"]

def executionOf (script : Script Float) (table : Csv.Table) : Execution Float :=
  ((script.execute {} (.frame (normalize table.frame)) {}).toOption).getD ⟨[], 1, none, {}⟩

section Tables

variable {text source : String} {raw : Csv.Table} {script : Script Float}

theorem exporting_hasSource (isText : (Given.text source).nonempty? = some source) :
    (exporting source).HasSource := by
  refine ⟨(.source, some (.text source)), List.mem_cons_of_mem _ List.mem_cons_self, ?_⟩
  rw [nonempty, Option.bind_some, isText]
  rfl

theorem readTable_bars (text : String) : readTable (holding text).files "bars.csv" = .ok text := by
  have packing : Csv.Packing.ofName? "bars.csv" = none := by cbv
  have target : (holding text).files.expand "bars.csv" = "bars.csv" := rfl
  unfold readTable
  rw [packing, target]
  simp [holding, Except.mapError]

theorem reads_bars (isTable : Csv.table text = .ok raw) : Reads (holding text).files (exporting source) raw :=
  ⟨"bars.csv", text, rfl, readTable_bars text, isTable⟩

theorem loadBars_bars (isTable : Csv.table text = .ok raw) :
    loadBars (holding text).files "bars.csv" = .ok { raw with frame := normalize raw.frame } := by
  unfold loadBars
  rw [readTable_bars]
  dsimp only [bind, Except.bind]
  rw [isTable]
  rfl

/-- The text is that of this table, and the source that of this script, which succeeds on the table. -/
structure Suits (text source : String) (raw : Csv.Table) (script : Script Float) : Prop where
  isTable : Csv.table text = .ok raw
  isText : (Given.text source).nonempty? = some source
  compiled : compile {} source = .ok script
  distinct : raw.frame.Distinct
  complete : ∀ price, (normalize raw.frame).Has price
  runs : (script.execute {} (.frame (normalize raw.frame)) {}).toOption.isSome = true
  succeeds : (executionOf script raw).failure.isNone = true

theorem Suits.executed (suits : Suits text source raw script) :
    Executed (holding text) (exporting source) {} none source { raw with frame := normalize raw.frame } {}
      (executionOf script raw) := by
  have configured : Configured (holding text) (exporting source) {} none := ⟨rfl, rfl, rfl⟩
  have finds : readSource (holding text).files (exporting source) = .ok (.ok source) := by
    rw [readSource, exporting, nonempty, Option.bind_some, suits.isText]
  have validated : Validated (holding text) (exporting source) {} none source :=
    ⟨⟨configured, finds⟩, rfl, validate_eq_none_iff.mpr ⟨script, suits.compiled⟩⟩
  refine ⟨⟨⟨validated, rfl, "bars.csv", rfl, loadBars_bars suits.isTable⟩, suits.complete, rfl⟩, ?_⟩
  rcases Option.isSome_iff_exists.mp suits.runs with ⟨execution, ran⟩
  have executed := eq_ok_of_toOption ran
  rw [executionOf, ran, Option.getD_some]
  refine (validated.executeSource_eq suits.compiled _ _).trans ?_
  refine (Interpreter.execute_unbounded script _ (fun several => ?_) _).trans executed
  rw [Script.execute, several] at executed
  cases executed

end Tables

def datedText : String := "Date,Open,High,Low,Close,Volume\nMon,1,3,0,2,10\nTue,2,4,1,3,0\n"

def undatedText : String := "open,high,low,close,volume\n1,3,0,2,10\n2,4,1,3,0\n"

def undated : Csv.Table where
  frame := {
    columns :=
      [("open", [.integer 1, .integer 2]), ("high", [.integer 3, .integer 4]), ("low", [.integer 0, .integer 1]),
        ("close", [.integer 2, .integer 3]), ("volume", [.integer 10, .integer 0])]
    labels := [.integer 0, .integer 1] }
  labelParts := 0

def dated : Csv.Table where
  frame := {
    columns :=
      [("Date", [.text "Mon", .text "Tue"]), ("Open", [.integer 1, .integer 2]), ("High", [.integer 3, .integer 4]),
        ("Low", [.integer 0, .integer 1]), ("Close", [.integer 2, .integer 3]), ("Volume", [.integer 10, .integer 0])]
    labels := [.integer 0, .integer 1] }
  labelParts := 0

def plotting : Script Float := ⟨[.plot (.call "close" [])]⟩

def quiet : Script Float := ⟨[.study { title := "Quiet" }]⟩

theorem plotting_accepted :
    Accepts (holding datedText) (argumentsOf "plot(close())") (exporting "plot(close())") :=
  ⟨by with_unfolding_all rfl, .inr (exporting_hasSource rfl), fun _ _ _ _ _ => ⟨_, rfl⟩⟩

theorem quiet_accepted :
    Accepts (holding undatedText) (argumentsOf "study(\"Quiet\")") (exporting "study(\"Quiet\")") :=
  ⟨by with_unfolding_all rfl, .inr (exporting_hasSource rfl), fun _ _ _ _ _ => ⟨_, rfl⟩⟩

end Sample

theorem run_exports_sample :
    Accepts (Sample.holding Sample.datedText) (Sample.argumentsOf "plot(close())") (Sample.exporting "plot(close())") ∧
      ∃ lines, run (Sample.holding Sample.datedText) (Sample.argumentsOf "plot(close())") = .ok {
        status := 0
        lines
        log := none
        exported := some {
          path := "out.csv", packing := none, text := "timestamp,value\nMon,2.0\nTue,3.0\n" } } := by
  have suits : Sample.Suits Sample.datedText "plot(close())" Sample.dated Sample.plotting := {
    isTable := eq_ok_of_toOption (by decide +kernel)
    isText := rfl
    compiled := by cbv
    distinct := by
      unfold Frame.Distinct
      decide +kernel
    complete := by
      intro price
      unfold Frame.Has
      cases price <;> decide +kernel
    runs := by decide +kernel
    succeeds := by decide +kernel }
  have succeeds := Option.isNone_iff_eq_none.mp suits.succeeds
  have writable : checkTarget (Sample.holding Sample.datedText).files "out.csv" = .ok () :=
    eq_ok_of_toOption (by decide +kernel)
  have dated : (Sample.dated.frame.column? "date").isSome = true := by cbv
  have text : Csv.writtenLines (["timestamp", "value"] :: exportedLines (stampsOf Sample.dated.frame)
      (Sample.executionOf Sample.plotting Sample.dated).series) = "timestamp,value\nMon,2.0\nTue,3.0\n" := by
    decide +kernel
  rcases run_exports Sample.plotting_accepted suits.executed succeeds rfl writable (Sample.reads_bars suits.isTable) rfl
    suits.distinct with ⟨script, stamped, -, -, -, -, exported, -⟩
  rcases exported (.inr (.inl dated)) with ⟨lines, ran⟩
  have packing : Csv.Packing.ofName? "out.csv" = none := by cbv
  rw [text, packing] at ran
  exact ⟨Sample.plotting_accepted, lines, ran⟩

/-- The script succeeds on two bars without time stamps, and yet there is no exported file. -/
theorem run_quiet :
    Accepts (Sample.holding Sample.undatedText) (Sample.argumentsOf "study(\"Quiet\")")
      (Sample.exporting "study(\"Quiet\")") ∧
    Executed (Sample.holding Sample.undatedText) (Sample.exporting "study(\"Quiet\")") {} none "study(\"Quiet\")"
      { Sample.undated with frame := normalize Sample.undated.frame } {}
      (Sample.executionOf Sample.quiet Sample.undated) ∧
    (Sample.executionOf Sample.quiet Sample.undated).failure = none ∧
    run (Sample.holding Sample.undatedText) (Sample.argumentsOf "study(\"Quiet\")") =
      .error (.unjoined (.lengthMismatch 2 0)) := by
  have suits : Sample.Suits Sample.undatedText "study(\"Quiet\")" Sample.undated Sample.quiet := {
    isTable := eq_ok_of_toOption (by decide +kernel)
    isText := rfl
    compiled := by cbv
    distinct := by
      unfold Frame.Distinct
      decide +kernel
    complete := by
      intro price
      unfold Frame.Has
      cases price <;> decide +kernel
    runs := by decide +kernel
    succeeds := by decide +kernel }
  have succeeds := Option.isNone_iff_eq_none.mp suits.succeeds
  have stampless : Sample.undated.frame.column? stampColumn = none := by cbv
  have dateless : Sample.undated.frame.column? "date" = none := by cbv
  have values : (Sample.executionOf Sample.quiet Sample.undated).series.length = 0 := by decide +kernel
  have other : Sample.undated.frame.labels.length ≠ (Sample.executionOf Sample.quiet Sample.undated).series.length := by
    rw [values]
    decide
  have unjoined := exportRows_of_unfit stampless dateless other
  rw [values] at unjoined
  have single : (Sample.executionOf Sample.quiet Sample.undated).width ≤ 1 := by decide +kernel
  exact ⟨Sample.quiet_accepted, suits.executed, succeeds,
    Sample.quiet_accepted.crashes (.rows suits.executed succeeds single unjoined)⟩

end CommandLine

end IndicatorScript
