import IndicatorScript.Number.Double
import IndicatorScript.Proofs.Expr.Completeness
import IndicatorScript.Statement.Parser

/-!
# The grammar of the study header

`StudyItems` says which tokens may stand between the parentheses of a header, and what they say about the study: nothing
at all, or a first item, which may be a bare title, and further ones, each behind a comma. Of several values for one
field the last one counts.

The parser also reads a comma in front of the first item. `studyHeader_eq_ok_iff`: that is all it reads besides.
-/

namespace IndicatorScript

/-- What an item of a header says. -/
inductive StudyItem where
  | title (text : String)
  | shortTitle (text : String)
  | overlay (isOverlay : Bool)
  /-- A parameter with another name. -/
  | ignored
  deriving DecidableEq, Repr

namespace StudyItem

def title? : StudyItem → Option String
  | .title text => some text
  | _ => none

def shortTitle? : StudyItem → Option String
  | .shortTitle text => some text
  | _ => none

def overlay? : StudyItem → Option Bool
  | .overlay isOverlay => some isOverlay
  | _ => none

def set (header : Study) : StudyItem → Study
  | .title text => { header with title := text }
  | .shortTitle text => { header with shortTitle := text }
  | .overlay isOverlay => { header with overlay := isOverlay }
  | .ignored => header

end StudyItem

/-- The study that a header with these items describes. -/
def Study.ofItems (items : List StudyItem) : Study where
  title := (items.filterMap StudyItem.title?).getLast?.getD ""
  shortTitle := (items.filterMap StudyItem.shortTitle?).getLast?.getD ""
  overlay := (items.filterMap StudyItem.overlay?).getLast?.getD false

theorem Study.ofItems_concat (items : List StudyItem) (item : StudyItem) :
    Study.ofItems (items ++ [item]) = item.set (Study.ofItems items) := by
  unfold ofItems
  cases item <;> simp [StudyItem.set, StudyItem.title?, StudyItem.shortTitle?, StudyItem.overlay?]

theorem Study.ofItems_append (items further : List StudyItem) :
    Study.ofItems (items ++ further) = further.foldl StudyItem.set (Study.ofItems items) := by
  induction further generalizing items with
  | nil => rw [List.append_nil, List.foldl_nil]
  | cons item further ih => rw [List.append_cons, ih, Study.ofItems_concat, List.foldl_cons]

/-! ## The grammar -/

section Grammar

variable (α : Type) [Literal α]

/-- The tokens of a parameter: a name, an equals sign, and a value that fits the name. -/
inductive StudyParameter : List Token → StudyItem → Prop where
  | title {name equal value : Token} (isName : name.kind = .identifier) (named : name.lexeme = "title")
      (isEqual : equal.kind = .equal) (isString : value.kind = .string) :
      StudyParameter [name, equal, value] (.title value.content)
  | shortTitle {name equal value : Token} (isName : name.kind = .identifier) (named : name.lexeme = "shorttitle")
      (isEqual : equal.kind = .equal) (isString : value.kind = .string) :
      StudyParameter [name, equal, value] (.shortTitle value.content)
  | overlay {name equal value : Token} (isName : name.kind = .identifier) (named : name.lexeme = "overlay")
      (isEqual : equal.kind = .equal) (isBoolean : value.kind = .boolean) :
      StudyParameter [name, equal, value] (.overlay (value.lexeme = "true"))
  | ignored {name equal : Token} {tokens : List Token} {e : Expr α} (isName : name.kind = .identifier)
      (unknown : name.lexeme ∉ ["title", "shorttitle", "overlay"]) (isEqual : equal.kind = .equal)
      (derives : Derives (.chain .or) tokens e) : StudyParameter (name :: equal :: tokens) .ignored

/-- Parameters, with a comma in front of each. -/
inductive FurtherItems : List Token → List StudyItem → Prop where
  | none : FurtherItems [] []
  | more {comma : Token} {first tokens : List Token} {item : StudyItem} {items : List StudyItem}
      (isComma : comma.kind = .comma) (parameter : StudyParameter α first item) (further : FurtherItems tokens items) :
      FurtherItems (comma :: (first ++ tokens)) (item :: items)

/-- A title or a parameter, and further parameters behind commas; or nothing. -/
inductive StudyItems : List Token → List StudyItem → Prop where
  | none : StudyItems [] []
  | title {t : Token} {tokens : List Token} {items : List StudyItem} (isString : t.kind = .string)
      (further : FurtherItems α tokens items) : StudyItems (t :: tokens) (.title t.content :: items)
  | parameter {first tokens : List Token} {item : StudyItem} {items : List StudyItem}
      (parameter : StudyParameter α first item) (further : FurtherItems α tokens items) :
      StudyItems (first ++ tokens) (item :: items)

/-- What the parser takes for items: the first one may be missing from in front of a comma. -/
def ReadItems (inside : List Token) (items : List StudyItem) : Prop :=
  StudyItems α inside items ∨ FurtherItems α inside items

end Grammar

/-- Tokens of this form, in parentheses. -/
def Parenthesised (form : List Token → Prop) (tokens : List Token) : Prop :=
  ∃ opening inside closing, tokens = opening :: (inside ++ [closing]) ∧ opening.kind = .leftParen ∧ form inside ∧
    closing.kind = .rightParen

section Reading

variable {α : Type} [Literal α]

theorem StudyParameter.exists_name {tokens : List Token} {item : StudyItem} (parameter : StudyParameter α tokens item) :
    ∃ name rest, tokens = name :: rest ∧ name.kind = .identifier := by
  cases parameter with
  | title isName | shortTitle isName | overlay isName | ignored isName => exact ⟨_, _, rfl, isName⟩

theorem StudyItems.head_ne_comma {inside : List Token} {items : List StudyItem} (documented : StudyItems α inside items) :
    ∀ t ∈ inside.head?, t.kind ≠ .comma := by
  cases documented with
  | none => nofun
  | title isString further =>
    intro t isHead
    cases isHead
    simp [isString]
  | parameter parameter further =>
    rcases parameter.exists_name with ⟨name, rest, rfl, isName⟩
    intro t isHead
    cases isHead
    simp [isName]

theorem FurtherItems.studyItems {inside : List Token} {items : List StudyItem} (further : FurtherItems α inside items)
    (noComma : ∀ t ∈ inside.head?, t.kind ≠ .comma) : StudyItems α inside items := by
  cases further with
  | none => exact .none
  | more isComma => exact absurd isComma (noComma _ rfl)

theorem FurtherItems.stops {inside : List Token} {items : List StudyItem} (further : FurtherItems α inside items)
    {closing : Token} (closes : closing.kind = .rightParen) (rest : List Token) :
    Stops closedRank (inside ++ closing :: rest) := by
  cases further with
  | none => exact .closed_cons (by simp [closes]) rest
  | more isComma => exact .closed_cons (by simp [isComma]) _

/-! ## What is read -/

namespace Statement

variable (bounds : Bounds) (room : Nat)

theorem studyParameter_derived (header : Study) (tokens : List Token) :
    Reads (fun used header' => ∃ item, StudyParameter α used item ∧ header' = item.set header) tokens
      (studyParameter (α := α) bounds room header tokens) := by
  unfold studyParameter
  refine (Reads.expect bounds _ _ _).bind fun name used rest isName => ?_
  rcases isName with ⟨rfl, isName⟩
  refine (Reads.expect bounds _ _ _).bind fun equal used rest isEqual => ?_
  rcases isEqual with ⟨rfl, isEqual⟩
  dsimp only
  split
  · next named =>
    refine (Reads.expect bounds _ _ _).bind fun value used rest isString => .ok ?_
    rcases isString with ⟨rfl, isString⟩
    exact ⟨.title value.content, .title isName named isEqual isString, rfl⟩
  next notTitle =>
  split
  · next named =>
    refine (Reads.expect bounds _ _ _).bind fun value used rest isString => .ok ?_
    rcases isString with ⟨rfl, isString⟩
    exact ⟨.shortTitle value.content, .shortTitle isName named isEqual isString, rfl⟩
  next notShort =>
  split
  · next named =>
    refine (Reads.expect bounds _ _ _).bind fun value used rest isBoolean => .ok ?_
    rcases isBoolean with ⟨rfl, isBoolean⟩
    exact ⟨.overlay (value.lexeme = "true"), .overlay isName named isEqual isBoolean, rfl⟩
  next notOverlay =>
  refine (Expr.expression_reads bounds room rest).bind fun e used rest derives => .ok ?_
  have unknown : name.lexeme ∉ ["title", "shorttitle", "overlay"] := by simp [notTitle, notShort, notOverlay]
  rw [List.append_nil]
  exact ⟨.ignored, .ignored isName unknown isEqual derives, rfl⟩

theorem studyParameters_derived (header : Study) (tokens : List Token) :
    Reads (fun used header' => ∃ items, FurtherItems α used items ∧ header' = items.foldl StudyItem.set header) tokens
      (studyParameters (α := α) bounds room header tokens) := by
  induction header, tokens using studyParameters.induct with
  | case1 header =>
    rw [studyParameters]
    exact .ok ⟨[], .none, rfl⟩
  | case2 header t rest isComma ih =>
    rw [studyParameters, if_pos isComma]
    refine .cons ((studyParameter_derived bounds room header rest).bind fun header' used after read => ?_)
    rcases read with ⟨item, parameter, rfl⟩
    dsimp only
    split
    · next shorter =>
      refine (ih _ after shorter).mono fun more header' read => ?_
      rcases read with ⟨items, further, rfl⟩
      exact ⟨item :: items, .more isComma parameter further, rfl⟩
    · refine .ok ⟨[item], ?_, rfl⟩
      exact .more isComma parameter .none
  | case3 header t rest other =>
    rw [studyParameters, if_neg other]
    exact .ok ⟨[], .none, rfl⟩

def studyEnding (header : Study) : Parser Study := fun tokens => do
  let (header, rest) ← studyParameters (α := α) bounds room header tokens
  let (_, rest) ← bounds.expect .rightParen .parenAfterStudyParameters rest
  .ok (header, rest)

theorem studyEnding_derived {opening : Token} (opens : opening.kind = .leftParen) (before : List Token)
    (items : List StudyItem)
    (begun : ∀ more others, FurtherItems α more others → ReadItems α (before ++ more) (items ++ others))
    (tokens : List Token) :
    Reads
      (fun used header => ∃ items, Parenthesised (ReadItems α · items) (opening :: (before ++ used)) ∧
        header = Study.ofItems items)
      tokens (studyEnding (α := α) bounds room (Study.ofItems items) tokens) := by
  unfold studyEnding
  refine (studyParameters_derived bounds room (Study.ofItems items) tokens).bind fun header more rest read => ?_
  rcases read with ⟨others, further, rfl⟩
  refine (Reads.expect bounds _ _ _).bind fun closing used rest closes => .ok ?_
  rcases closes with ⟨rfl, closes⟩
  refine ⟨items ++ others, ⟨opening, before ++ more, closing, ?_, opens, begun more others further, closes⟩, ?_⟩
  · simp
  · exact (Study.ofItems_append items others).symm

theorem studyHeader_derived (tokens : List Token) :
    Reads
      (fun used header => ∃ items, Parenthesised (ReadItems α · items) used ∧ header = Study.ofItems items)
      tokens (studyHeader (α := α) bounds room tokens) := by
  unfold studyHeader
  refine (Reads.expect bounds _ _ _).bind fun opening used rest opens => ?_
  rcases opens with ⟨rfl, opens⟩
  have bare := studyEnding_derived (α := α) bounds room opens [] [] fun more others further => .inr further
  cases rest with
  | nil => exact bare []
  | cons t after =>
    dsimp only
    split
    · next isString =>
      exact .cons (studyEnding_derived bounds room opens [t] [.title t.content]
        (fun more others further => .inl (.title isString further)) after)
    split
    · refine (studyParameter_derived bounds room {} (t :: after)).bind fun header before rest read => ?_
      rcases read with ⟨item, parameter, rfl⟩
      have alone : item.set {} = Study.ofItems [item] := (Study.ofItems_concat [] item).symm
      dsimp only
      rw [alone]
      exact studyEnding_derived bounds room opens before [item]
        (fun more others further => .inl (.parameter parameter further)) rest
    · exact bare (t :: after)

/-! ## Headers are read -/

section Complete

variable {bounds room} {tokens rest : List Token} {item : StudyItem} {items : List StudyItem}

theorem studyParameter_of_derived (parameter : StudyParameter α tokens item) (spelled : Spelled tokens)
    (fits : tokens.length ≤ room) (stops : Stops closedRank rest) (header : Study) :
    studyParameter (α := α) bounds room header (tokens ++ rest) = .ok (item.set header, rest) := by
  cases parameter with
  | title isName named isEqual isValue | shortTitle isName named isEqual isValue | overlay isName named isEqual isValue =>
    simp [studyParameter, Bounds.expect, isName, named, isEqual, isValue, bind, Except.bind, StudyItem.set]
  | @ignored name equal tokens e isName unknown isEqual derives =>
    simp only [List.mem_cons, List.not_mem_nil, or_false, not_or] at unknown
    rcases unknown with ⟨notTitle, notShort, notOverlay⟩
    simp only [List.length_cons] at fits
    have read : Expr.expression bounds room (tokens ++ rest) = .ok (e, rest) :=
      (Expr.isRead_of_derives derives spelled.tail.tail).expression derives.length_pos (by omega) stops
    simp only [List.cons_append, studyParameter, Bounds.expect, isName, isEqual, if_true, bind, Except.bind]
    rw [if_neg notTitle, if_neg notShort, if_neg notOverlay, read]
    rfl

theorem studyParameters_of_derived (further : FurtherItems α tokens items) (spelled : Spelled tokens)
    (fits : tokens.length ≤ room) {closing : Token} (closes : closing.kind = .rightParen) (rest : List Token)
    (header : Study) :
    studyParameters (α := α) bounds room header (tokens ++ closing :: rest) =
      .ok (items.foldl StudyItem.set header, closing :: rest) := by
  induction further generalizing header with
  | none =>
    rw [List.nil_append, studyParameters, if_neg (by simp [closes])]
    rfl
  | @more comma first tokens item items isComma parameter further ih =>
    simp only [List.length_cons, List.length_append] at fits
    have read : studyParameter (α := α) bounds room header (first ++ (tokens ++ closing :: rest)) =
        .ok (item.set header, tokens ++ closing :: rest) :=
      studyParameter_of_derived parameter spelled.tail.first (by omega) (further.stops closes rest) header
    have shorter : (tokens ++ closing :: rest).length < (first ++ (tokens ++ closing :: rest)).length := by
      rcases parameter.exists_name with ⟨name, others, rfl, -⟩
      simp only [List.length_append, List.length_cons]
      omega
    rw [List.cons_append, List.append_assoc, studyParameters, if_pos isComma, read]
    simp only [bind, Except.bind, if_pos shorter]
    exact ih spelled.tail.rest (by omega) (item.set header)

theorem studyEnding_of_derived (further : FurtherItems α tokens items) (spelled : Spelled tokens)
    (fits : tokens.length ≤ room) {closing : Token} (closes : closing.kind = .rightParen) (rest : List Token)
    (before : List StudyItem) :
    studyEnding (α := α) bounds room (Study.ofItems before) (tokens ++ closing :: rest) =
      .ok (Study.ofItems (before ++ items), rest) := by
  rw [studyEnding, studyParameters_of_derived further spelled fits closes, Study.ofItems_append]
  simp only [bind, Except.bind, Bounds.expect, if_pos closes]

theorem studyHeader_cons {opening t : Token} (opens : opening.kind = .leftParen) (after : List Token) :
    studyHeader (α := α) bounds room (opening :: t :: after) =
      if t.kind = .string then studyEnding (α := α) bounds room (Study.ofItems [.title t.content]) after
      else if t.kind = .identifier then do
        let (header, rest) ← studyParameter (α := α) bounds room {} (t :: after)
        studyEnding (α := α) bounds room header rest
      else studyEnding (α := α) bounds room (Study.ofItems []) (t :: after) := by
  simp only [studyHeader, Bounds.expect, opens, if_true, bind, Except.bind]
  split
  · rfl
  split
  · rfl
  · rfl

theorem studyHeader_of_derived (header : Parenthesised (ReadItems α · items) tokens) (spelled : Spelled tokens)
    (fits : tokens.length ≤ room) (rest : List Token) :
    studyHeader (α := α) bounds room (tokens ++ rest) = .ok (Study.ofItems items, rest) := by
  rcases header with ⟨opening, inside, closing, rfl, opens, read, closes⟩
  have spelled : Spelled inside := spelled.tail.first
  have fits : inside.length ≤ room := by
    simp only [List.length_cons, List.length_append] at fits
    omega
  rw [List.cons_append, List.append_assoc, List.singleton_append]
  have bare {items : List StudyItem} (further : FurtherItems α inside items) :
      studyHeader (α := α) bounds room (opening :: (inside ++ closing :: rest)) = .ok (Study.ofItems items, rest) := by
    have ending : studyEnding (α := α) bounds room (Study.ofItems []) (inside ++ closing :: rest) =
        .ok (Study.ofItems items, rest) := studyEnding_of_derived further spelled fits closes rest []
    cases further with
    | none => rwa [List.nil_append, studyHeader_cons opens, if_neg (by simp [closes]), if_neg (by simp [closes])]
    | more isComma =>
      rwa [List.cons_append, studyHeader_cons opens, if_neg (by simp [isComma]), if_neg (by simp [isComma])]
  rcases read with documented | further
  · cases documented with
    | none => exact bare .none
    | @title t tokens items isString further =>
      rw [List.length_cons] at fits
      rw [List.cons_append, studyHeader_cons opens, if_pos isString]
      exact studyEnding_of_derived further spelled.tail (by omega) closes rest [_]
    | @parameter first tokens item items parameter further =>
      rw [List.length_append] at fits
      have read : studyParameter (α := α) bounds room {} (first ++ (tokens ++ closing :: rest)) =
          .ok (item.set {}, tokens ++ closing :: rest) :=
        studyParameter_of_derived parameter spelled.first (by omega) (further.stops closes rest) {}
      rcases parameter.exists_name with ⟨name, others, rfl, isName⟩
      rw [List.append_assoc]
      rw [List.cons_append] at read ⊢
      rw [studyHeader_cons opens, if_neg (by simp [isName]), if_pos isName, read,
        show item.set {} = Study.ofItems [item] from (Study.ofItems_concat [] item).symm]
      exact studyEnding_of_derived further spelled.rest (by omega) closes rest [item]
  · exact bare further

end Complete

end Statement

/-- The headers of the grammar are those that are read and have no comma in front. -/
theorem parenthesised_studyItems_iff {used : List Token} {items : List StudyItem} :
    Parenthesised (StudyItems α · items) used ↔
      Parenthesised (ReadItems α · items) used ∧ ∀ t ∈ used[1]?, t.kind ≠ .comma := by
  have second (opening closing : Token) (inside : List Token) :
      (∀ t ∈ (opening :: (inside ++ [closing]))[1]?, t.kind ≠ .comma) ↔
        ∀ t ∈ (inside ++ [closing]).head?, t.kind ≠ .comma := by
    simp [List.head?_eq_getElem?]
  constructor
  · rintro ⟨opening, inside, closing, rfl, opens, documented, closes⟩
    refine ⟨⟨opening, inside, closing, rfl, opens, .inl documented, closes⟩, (second _ _ _).mpr fun t isHead => ?_⟩
    cases inside with
    | nil =>
      cases isHead
      simp [closes]
    | cons first others => exact documented.head_ne_comma t isHead
  · rintro ⟨⟨opening, inside, closing, rfl, opens, read, closes⟩, noComma⟩
    refine ⟨opening, inside, closing, rfl, opens, ?_, closes⟩
    rcases read with documented | further
    · exact documented
    · refine further.studyItems fun t isHead => (second _ _ _).mp noComma t ?_
      rw [Option.mem_def] at isHead ⊢
      rw [List.head?_append, isHead]
      rfl

theorem studyHeader_eq_ok_iff {bounds : Bounds} {room : Nat} {tokens : List Token} (spelled : Spelled tokens)
    (fits : tokens.length ≤ room) (header : Study) (rest : List Token) :
    (Statement.studyHeader (α := α) bounds room tokens = .ok (header, rest) ↔
      ∃ used items, tokens = used ++ rest ∧ Parenthesised (ReadItems α · items) used ∧
        header = Study.ofItems items) ∧
    ∀ used items, Parenthesised (StudyItems α · items) used ↔
      Parenthesised (ReadItems α · items) used ∧ ∀ t ∈ used[1]?, t.kind ≠ .comma := by
  refine ⟨⟨fun accepted => ?_, ?_⟩, fun used items => parenthesised_studyItems_iff⟩
  · rcases Statement.studyHeader_derived bounds room tokens spelled _ accepted with ⟨used, same, items, read, described⟩
    exact ⟨used, items, same, read, described⟩
  · rintro ⟨used, items, rfl, read, rfl⟩
    rw [List.length_append] at fits
    exact Statement.studyHeader_of_derived read spelled.first (by omega) rest

end Reading

namespace Sample

def header : List Token :=
  [⟨.leftParen, "(", 1⟩, ⟨.string, "\"T\"", 1⟩, ⟨.comma, ",", 1⟩, ⟨.identifier, "precision", 1⟩, ⟨.equal, "=", 1⟩,
    ⟨.identifier, "a", 1⟩, ⟨.plus, "+", 1⟩, ⟨.identifier, "b", 1⟩, ⟨.comma, ",", 1⟩, ⟨.identifier, "overlay", 1⟩,
    ⟨.equal, "=", 1⟩, ⟨.boolean, "true", 1⟩, ⟨.rightParen, ")", 1⟩, ⟨.newline, "\n", 1⟩]

theorem header_spelled : Spelled header := by
  have isTitle : Token.Kind.string.Spells "\"T\"".toList := ⟨['T'], by decide, rfl⟩
  have isPrecision : Token.IsName "precision".toList := by decide
  have isA : Token.IsName "a".toList := by decide
  have isB : Token.IsName "b".toList := by decide
  have isOverlay : Token.IsName "overlay".toList := by decide
  simp only [Spelled, header, List.forall_mem_cons]
  exact ⟨rfl, isTitle, rfl, isPrecision, rfl, isA, rfl, isB, rfl, isOverlay, rfl, .inl rfl, rfl, rfl,
    fun t mem => absurd mem List.not_mem_nil⟩

def headless : List Token :=
  [⟨.leftParen, "(", 1⟩, ⟨.comma, ",", 1⟩, ⟨.identifier, "overlay", 1⟩, ⟨.equal, "=", 1⟩, ⟨.boolean, "true", 1⟩,
    ⟨.rightParen, ")", 1⟩]

theorem headless_spelled : Spelled headless := by
  have isOverlay : Token.IsName "overlay".toList := by decide
  simp only [Spelled, headless, List.forall_mem_cons]
  exact ⟨rfl, rfl, isOverlay, rfl, .inl rfl, rfl, fun t mem => absurd mem List.not_mem_nil⟩

end Sample

theorem studyHeader_eq_ok_iff_sample :
    Spelled Sample.header ∧ Sample.header.length ≤ 50 ∧
      ∃ used items, Sample.header = used ++ [⟨.newline, "\n", 1⟩] ∧ Parenthesised (ReadItems Float · items) used ∧
        { title := "T", overlay := true } = Study.ofItems items := by
  have accepted : Statement.studyHeader (α := Float) ⟨.whole 50, 1⟩ 50 Sample.header =
      .ok ({ title := "T", overlay := true }, [⟨.newline, "\n", 1⟩]) := by cbv
  exact ⟨Sample.header_spelled, by decide,
    (studyHeader_eq_ok_iff Sample.header_spelled (by decide) _ _).1.mp accepted⟩

/-- A comma in front of the first parameter is read, and in no header of the grammar. -/
theorem studyHeader_headless :
    tokenize "study(, overlay=true)" =
        .ok (⟨.identifier, "study", 1⟩ :: Sample.headless ++ [⟨.endOfScript, "", 1⟩]) ∧
      Spelled Sample.headless ∧ Sample.headless.length + 1 < 50 ∧
      Statement.studyHeader (α := Float) ⟨.whole 50, 1⟩ 50 Sample.headless = .ok ({ overlay := true }, []) ∧
      ¬ ∃ used items rest, Sample.headless = used ++ rest ∧ Parenthesised (StudyItems Float · items) used := by
  refine ⟨by cbv, Sample.headless_spelled, by decide, by cbv, ?_⟩
  rintro ⟨used, items, rest, same, opening, inside, closing, rfl, -, documented, closes⟩
  simp only [Sample.headless, List.cons_append, List.append_assoc, List.nil_append, List.cons.injEq] at same
  cases inside with
  | nil =>
    cases same.2
    cases closes
  | cons first others =>
    rw [List.cons_append, List.cons.injEq] at same
    exact documented.head_ne_comma first rfl (same.2.1 ▸ rfl)

end IndicatorScript
