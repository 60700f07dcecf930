import IndicatorScript.Panel.Run
import IndicatorScript.Proofs.Run.Alignment

/-!
# Runs over tables

Where every column has a value at each bar, so has every column that a script makes of them. A run over a table then
fails with nothing but what runs over single columns fail with, and what comes of several columns (`run_yields`).
-/

namespace IndicatorScript

variable {α : Type}

/-- The errors of operations on several columns. -/
def EvalError.IsOfColumns : EvalError α → Prop
  | .severalColumns | .columns _ => True
  | _ => False

namespace Panel

def Series.Fits (bars : Nat) : Series α → Prop
  | .single values => values.length = bars
  | .several table => table ≠ [] ∧ ∀ column ∈ table, column.2.length = bars

def Operand.Fits (bars : Nat) : Operand α → Prop
  | .scalar _ => True
  | .series values => values.Fits bars

structure Context.Aligned (context : Context α) : Prop where
  further : ∀ price, ∀ values ∈ context.further price, values.length = context.bars.length
  series : context.toContext.Aligned
  tables : ∀ name table, context.tables.get? name = some table → (Series.several table).Fits context.bars.length

theorem Series.fits_ofColumns {bars : Nat} (price : Price) {values : List α} {further : List (List α)}
    (length : values.length = bars) (lengths : ∀ values ∈ further, values.length = bars) :
    (Series.ofColumns price (values :: further)).Fits bars := by
  cases further with
  | nil => exact length
  | cons other rest =>
    refine ⟨List.cons_ne_nil _ _, fun column mem => ?_⟩
    rcases List.mem_map.mp mem with ⟨given, isOne, rfl⟩
    rcases List.mem_cons.mp isOne with same | isFurther
    · exact same ▸ length
    · exact lengths given isFurther

theorem Series.Fits.mapColumns {bars : Nat} {series : Series α} (fits : series.Fits bars) {f : List α → List α}
    (keeps : ∀ values, (f values).length = values.length) : (series.mapColumns f).Fits bars := by
  cases series with
  | single values => exact (keeps values).trans fits
  | several table =>
    refine ⟨fun empty => fits.1 (List.map_eq_nil_iff.mp empty), fun column mem => ?_⟩
    rcases List.mem_map.mp mem with ⟨given, isOne, rfl⟩
    exact (keeps given.2).trans (fits.2 given isOne)

theorem Operand.Fits.single? {bars : Nat} {x : Operand α} {y : IndicatorScript.Operand α} (fits : x.Fits bars)
    (isSingle : x.single? = some y) : y.Fits bars := by
  cases x with
  | scalar x =>
    cases isSingle
    trivial
  | series values =>
    cases values with
    | single values =>
      cases isSingle
      exact fits
    | several table => cases isSingle

variable [Number α]

/-- What the evaluation of an expression can fail with over a table. -/
def Raises (context : Context α) (e : Expr α) (err : EvalError α) : Prop :=
  e.Raises context.toContext err ∨ err.IsOfColumns

variable {context : Context α} {β : Type} {p : β → Prop} {result : Except (EvalError α) β}

theorem yields_of_raises {e : Expr α} (yields : Yields p (e.Raises context.toContext) result) :
    Yields p (Raises context e) result :=
  yields.mono (fun _ => id) fun _ => .inl

theorem yields_of_part {part whole : Expr α} (yields : Yields p (Raises context part) result)
    (uses : ∀ op, part.Uses op → whole.Uses op) : Yields p (Raises context whole) result :=
  yields.mono (fun _ => id) fun _ => Or.imp_left fun raises => raises.ofPart uses

/-! ## Values -/

theorem toNumber_yields {value : Value α} (known : value.KnownTo context.toContext) (e : Expr α) :
    Yields (fun _ => True) (Raises context e) value.toNumber :=
  yields_of_raises (value.toNumber_yields known e)

theorem toLength_yields {value : Value α} (known : value.KnownTo context.toContext) (e : Expr α) :
    Yields (fun _ => True) (Raises context e) value.toLength :=
  yields_of_raises (value.toLength_yields known e)

theorem positionIn_yields (series : String) (values : Series α) (index : α) (e : Expr α) :
    Yields (fun _ => True) (Raises context e) (positionIn series values index) := by
  refine (yields_of_raises (Expr.positionIn_yields series values.front index e)).bind fun x _ => ?_
  cases values with
  | single values => trivial
  | several table => exact .inr trivial

theorem evalScalar_yields (context : Context α) (e : Expr α) :
    Yields (Value.KnownTo context.toContext) (Raises context e) (evalScalar context e) := by
  induction e using Expr.induction with
  | number | text | boolean => exact nofun
  | name n =>
    unfold evalScalar
    split
    · next bound => exact Value.knownTo_of_scalar? bound
    · exact .inl trivial
  | call function arguments ih =>
    have each (a : Expr α) (mem : a ∈ arguments) :
        Yields (Value.KnownTo context.toContext) (Raises context (.call function arguments)) (evalScalar context a) :=
      yields_of_part (ih a mem) fun _ => .argument mem
    have absent : Value.none.KnownTo context.toContext := nofun
    have title {value : Value α} (known : value.KnownTo context.toContext) :=
      yields_of_raises (e := .call function arguments) (Expr.inputTitle_yields function known _)
    unfold evalScalar
    split
    · exact .inl trivial
    split
    · exact .inl trivial
    split
    · exact (each _ (by simp)).bind fun x known => (toNumber_yields known _).bind fun x _ => nofun
    · exact (each _ (by simp)).bind fun x known => (toNumber_yields known _).bind fun x _ =>
        (each _ (by simp)).bind fun y known => (toNumber_yields known _).bind fun y _ => nofun
    · exact (each _ (by simp)).bind fun _ known => (title known).bind fun name _ =>
        yields_of_raises (Expr.input_yields name absent _)
    · exact (each _ (by simp)).bind fun _ known => (title known).bind fun name _ =>
        (each _ (by simp)).bind fun default known => yields_of_raises (Expr.input_yields name known _)
    · exact .inl trivial
  | binary left op right ihLeft ihRight =>
    unfold evalScalar
    exact (yields_of_part ihLeft fun _ => .left).bind fun x known =>
      (yields_of_part ihRight fun _ => .right).bind fun y known' =>
        yields_of_raises (Expr.applyScalar_yields known known' op .here)
  | index series position ih =>
    unfold evalScalar
    split
    · exact .inl trivial
    · next values _ =>
      exact (yields_of_part ih fun _ => .position).bind fun x known => (toNumber_yields known _).bind fun index _ =>
        (positionIn_yields series values index _).map fun x _ => nofun

/-! ## Series -/

theorem evalConstant_yields (context : Context α) (e : Expr α) :
    Yields (Series.Fits context.bars.length) (Raises context e) (evalConstant context e) :=
  (evalScalar_yields context e).bind fun _ known => (toNumber_yields known e).bind fun x _ =>
    length_broadcast context.bars.length x

theorem operandOf_yields {part whole : Expr α} {series : Unit → Except (EvalError α) (Series α)}
    (uses : ∀ op, part.Uses op → whole.Uses op)
    (yields : Yields (Series.Fits context.bars.length) (Raises context part) (series ())) :
    Yields (Operand.Fits context.bars.length) (Raises context whole) (operandOf context part series) := by
  unfold operandOf
  split
  · exact (yields_of_part yields uses).bind fun values fits => fits
  · exact (yields_of_part (evalScalar_yields context part) uses).bind fun _ known =>
      (toNumber_yields known whole).bind fun _ _ => trivial

omit [Number α] in
theorem length_rowsOf {bars : Nat} {table : Table α} (fits : (Series.several table).Fits bars) :
    (rowsOf table).length = bars := by
  cases table with
  | nil => exact absurd rfl fits.1
  | cons column rest =>
    rcases column with ⟨price, values⟩
    have start : (values.map ([·])).length = bars := by
      rw [List.length_map]
      exact fits.2 _ List.mem_cons_self
    have lengths : ∀ column ∈ rest, column.2.length = bars := fun column mem => fits.2 column (List.mem_cons_of_mem _ mem)
    clear fits
    unfold rowsOf
    dsimp only
    generalize values.map ([·]) = rows at start
    induction rest generalizing rows with
    | nil => exact start
    | cons column rest ih =>
      refine ih (fun other mem => lengths other (List.mem_cons_of_mem column mem)) _ ?_
      rw [List.length_zipWith, start, lengths column List.mem_cons_self, Nat.min_self]

theorem windowed_yields {values : Series α} (fits : values.Fits context.bars.length) (indicator : Windowed)
    (length : Nat) (e : Expr α) :
    Yields (Series.Fits context.bars.length) (Raises context e) (values.windowed indicator length) := by
  unfold Series.windowed
  split
  · next table =>
    unfold strength
    dsimp only
    split
    · exact (List.length_map _).trans (length_rowsOf fits)
    · split
      · exact .inr trivial
      · exact .inr trivial
  · exact fits.mapColumns (length_apply_windowed indicator length)

theorem composite_yields (context : Context α) (average : Composite) (e : Expr α) :
    Yields (Series.Fits context.bars.length) (Raises context e) (composite context.bars context.further average) := by
  unfold composite
  dsimp only
  split
  · exact List.length_map _
  split
  · exact .inr trivial
  next several _ =>
  refine ⟨fun empty => several ?_, fun column mem => ?_⟩
  · rw [List.isEmpty_iff, List.eq_nil_iff_forall_not_mem]
    intro price mem
    have isEmpty := List.flatMap_eq_nil_iff.mp empty price mem
    cases isEmpty
  · rcases List.mem_flatMap.mp mem with ⟨price, -, mem⟩
    rw [List.eq_of_mem_replicate mem]
    exact List.length_map _

/-! ### Operations -/

theorem abs_yields {x : Operand α} (fits : x.Fits context.bars.length) (e : Expr α) :
    Yields (Series.Fits context.bars.length) (Raises context e) (x.abs context.bars.length) := by
  unfold Operand.abs
  split
  · next y isSingle => exact (fits.single? isSingle).length_map Number.abs
  · exact .inr trivial

theorem choose_yields {x y : Operand α} (fits : x.Fits context.bars.length) (fits' : y.Fits context.bars.length)
    (which : Choice) (e : Expr α) :
    Yields (Series.Fits context.bars.length) (Raises context e) (x.choose context.bars.length which y) := by
  unfold Operand.choose
  split
  · next x' y' isSingle isSingle' =>
    have fits := fits.single? isSingle
    have fits' := fits'.single? isSingle'
    rw [fits.checkAligned fits', fits.zipWith_eq fits']
    exact fits.length_zipWith_values fits' which.apply
  · refine .inr ?_
    unfold Operand.choiceError
    split
    · split <;> trivial
    · trivial
    · trivial

theorem raises_operationError {op : Operator} (x y : Operand α) {e : Expr α} (uses : e.Uses op) :
    Raises context e (operationError op x y) := by
  cases op with
  | arithmetic op =>
    unfold operationError
    dsimp only
    split
    · exact .inl trivial
    · split
      · exact .inr trivial
      · exact .inr trivial
  | test op => exact .inr trivial
  | unknown symbol => exact .inl uses

theorem applySeries_yields {x y : Operand α} (fits : x.Fits context.bars.length) (fits' : y.Fits context.bars.length)
    (op : Operator) {e : Expr α} (uses : e.Uses op) :
    Yields (Series.Fits context.bars.length) (Raises context e) (applySeries context.bars.length op x y) := by
  unfold applySeries
  split
  · next x' y' isSingle isSingle' =>
    exact (yields_of_raises (Expr.applySeries_yields (fits.single? isSingle) (fits'.single? isSingle') op uses)).map
      fun _ => id
  · exact raises_operationError x y uses

theorem evalSeries_yields (aligned : context.Aligned) (e : Expr α) :
    Yields (Series.Fits context.bars.length) (Raises context e) (evalSeries context e) := by
  induction e using Expr.induction with
  | number | text | boolean | index => exact evalConstant_yields context _
  | name n =>
    unfold evalSeries
    split
    · next values found =>
      rcases Option.or_eq_some_iff.mp found with isTable | ⟨-, isSeries⟩
      · rcases Option.map_eq_some_iff.mp isTable with ⟨table, bound, rfl⟩
        exact aligned.tables n table bound
      · rcases Option.map_eq_some_iff.mp isSeries with ⟨single, bound, rfl⟩
        exact aligned.series n single bound
    · split
      · next value bound =>
        exact (toNumber_yields (Value.knownTo_of_scalar? bound) _).bind fun x _ => length_broadcast _ x
      · exact .inl trivial
  | call function arguments ih =>
    have each (a : Expr α) (mem : a ∈ arguments) : ∀ op, a.Uses op → (Expr.call function arguments).Uses op :=
      fun op => .argument mem
    have series (a : Expr α) (mem : a ∈ arguments) : Yields (Series.Fits context.bars.length)
        (Raises context (.call function arguments)) (evalSeries context a) :=
      yields_of_part (ih a mem) (each a mem)
    have scalar (a : Expr α) (mem : a ∈ arguments) : Yields (Value.KnownTo context.toContext)
        (Raises context (.call function arguments)) (evalScalar context a) :=
      yields_of_part (evalScalar_yields context a) (each a mem)
    have operand (a : Expr α) (mem : a ∈ arguments) : Yields (Operand.Fits context.bars.length)
        (Raises context (.call function arguments)) (operandOf context a fun _ => evalSeries context a) :=
      operandOf_yields (each a mem) (ih a mem)
    unfold evalSeries
    split
    · exact .inl trivial
    split
    -- prices and their averages
    · exact Series.fits_ofColumns _ (List.length_map _) (aligned.further _)
    · exact composite_yields context _ _
    -- indicators, each column as long as the one that it is made of
    · exact (series _ (by simp)).bind fun values fits => (scalar _ (by simp)).bind fun value known =>
        (toLength_yields known _).bind fun length _ => windowed_yields fits _ length _
    · exact (series _ (by simp)).bind fun values fits => (scalar _ (by simp)).bind fun value known =>
        (toLength_yields known _).bind fun fast _ => (scalar _ (by simp)).bind fun value known =>
        (toLength_yields known _).bind fun slow _ =>
        fits.mapColumns (length_apply_convergence _ fast slow Indicator.signalLength)
    · exact (series _ (by simp)).bind fun values fits => (scalar _ (by simp)).bind fun value known =>
        (toLength_yields known _).bind fun length _ => (scalar _ (by simp)).bind fun value known =>
        (toNumber_yields known _).bind fun multiple _ => fits.mapColumns (length_apply_band _ length multiple)
    -- elementwise functions
    · exact (operand _ (by simp)).bind fun x fits => abs_yields fits _
    · exact (operand _ (by simp)).bind fun x fits => (operand _ (by simp)).bind fun y fits' =>
        choose_yields fits fits' _ _
    · exact evalConstant_yields context _
    · exact .inl trivial
  | binary left op right ihLeft ihRight =>
    unfold evalSeries
    exact (operandOf_yields (fun _ => .left) ihLeft).bind fun x fits =>
      (operandOf_yields (fun _ => .right) ihRight).bind fun y fits' => applySeries_yields fits fits' op .here

theorem evalDeclared_yields (aligned : context.Aligned) (e : Expr α) :
    Yields (Series.Fits context.bars.length) (Raises context e) (evalDeclared context e) := by
  unfold evalDeclared
  split
  · exact evalSeries_yields aligned e
  · exact evalConstant_yields context e

/-! ## Steps and runs -/

/-- What every statement keeps of a context. -/
structure Context.Keeps (before after : Context α) : Prop where
  bars : after.bars = before.bars
  aligned : after.Aligned
  integers : ∀ i, after.toContext.HasInteger i → before.toContext.HasInteger i

omit [Number α] in
theorem Context.Keeps.refl (aligned : context.Aligned) : context.Keeps context := ⟨rfl, aligned, fun _ => id⟩

omit [Number α] in
theorem Context.Keeps.trans {first second third : Context α} (one : first.Keeps second) (other : second.Keeps third) :
    first.Keeps third :=
  ⟨other.bars.trans one.bars, other.aligned, fun i has => one.integers i (other.integers i has)⟩

omit [Number α] in
theorem Context.keeps_declare (aligned : context.Aligned) (name : String) {values : Series α}
    (fits : values.Fits context.bars.length) : context.Keeps (context.declare name values) := by
  have integers (i : Int) (has : (context.declare name values).toContext.HasInteger i) :
      context.toContext.HasInteger i := by
    have erased : (context.declare name values).scalars = context.scalars.erase name := by
      cases values <;> rfl
    have same : (context.declare name values).parameters = context.parameters := by
      cases values <;> rfl
    rcases has with ⟨other, isScalar | isParameter⟩
    · rw [erased] at isScalar
      exact ⟨other, .inl (Bindings.get?_of_erase isScalar)⟩
    · exact ⟨other, .inr (same ▸ isParameter)⟩
  cases values with
  | single values =>
    exact ⟨rfl, ⟨aligned.further, aligned.series.insert name fits,
      fun other table bound => aligned.tables other table (Bindings.get?_of_erase bound)⟩, integers⟩
  | several table =>
    refine ⟨rfl, ⟨aligned.further, fun other values bound =>
      aligned.series other values (Bindings.get?_of_erase bound), fun other others bound => ?_⟩, integers⟩
    rcases Bindings.get?_insert_cases bound with ⟨-, rfl⟩ | ⟨-, bound⟩
    · exact fits
    · exact aligned.tables other others bound

theorem Context.step_yields (aligned : context.Aligned) (statement : Statement α) :
    Yields (fun out => context.Keeps out.1) (fun err => ∃ e ∈ statement.expressions, Raises context e err)
      (context.step statement) := by
  cases statement with
  | study header => exact ⟨rfl, ⟨aligned.further, aligned.series, aligned.tables⟩, fun _ => id⟩
  | scalar name value =>
    have yields := (evalScalar_yields context value).mono (fun _ => id) fun err raises =>
      (⟨value, List.mem_singleton_self value, raises⟩ :
        ∃ e ∈ (Statement.scalar name value).expressions, Raises context e err)
    refine yields.bind fun x known => ⟨rfl, ⟨aligned.further, fun other values bound => ?_, fun other table bound => ?_⟩,
      fun i => known.insert⟩
    · exact aligned.series other values (Bindings.get?_of_erase bound)
    · exact aligned.tables other table (Bindings.get?_of_erase bound)
  | series name value =>
    have yields := (evalDeclared_yields aligned value).mono (fun _ => id) fun err raises =>
      (⟨value, List.mem_singleton_self value, raises⟩ :
        ∃ e ∈ (Statement.series name value).expressions, Raises context e err)
    exact yields.bind fun values fits => Context.keeps_declare aligned name fits
  | plot value =>
    have yields := (evalDeclared_yields aligned value).mono (fun _ => id) fun err raises =>
      (⟨value, List.mem_singleton_self value, raises⟩ :
        ∃ e ∈ (Statement.plot value).expressions, Raises context e err)
    exact yields.bind fun values fits => .refl aligned

theorem Context.runFrom_yields (aligned : context.Aligned) (plotted : Series α) (statements : List (Statement α)) :
    Yields (fun _ => True) (fun err => ∃ statement ∈ statements, ∃ e ∈ statement.expressions, Raises context e err)
      (context.runFrom plotted statements).plotted := by
  induction statements generalizing context plotted with
  | nil => trivial
  | cons statement rest ih =>
    have step := step_yields aligned statement
    simp only [runFrom]
    cases stepped : context.step statement with
    | error err => exact ⟨statement, List.mem_cons_self, step.fails stepped⟩
    | ok out =>
      rcases out with ⟨next, shown⟩
      have keeps := step.gives _ stepped
      refine (ih keeps.aligned (shown.getD plotted)).mono (fun _ => id) fun err raised => ?_
      rcases raised with ⟨other, mem, e, isOf, raises⟩
      exact ⟨other, List.mem_cons_of_mem statement mem, e, isOf, raises.imp_left (Expr.Raises.before keeps.integers)⟩

/-- A run over a table fails with what an expression of a statement raises, or is not begun. -/
theorem Context.run_yields (aligned : context.Aligned) (limits : Limits) (statements : List (Statement α)) :
    Yields (fun _ => True)
      (fun err => (∃ statement ∈ statements, ∃ e ∈ statement.expressions, Raises context e err) ∨
        limits.exceeded? statements.length context.bars.length = some err)
      (context.run limits statements).plotted := by
  unfold Context.run
  split
  · next err exceeded => exact .inr exceeded
  · exact (runFrom_yields aligned _ statements).mono (fun _ => id) fun _ => .inl

end Panel

end IndicatorScript
