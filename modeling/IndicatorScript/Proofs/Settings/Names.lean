import IndicatorScript.Proofs.Gives
import IndicatorScript.Settings

/-!
# Settings among other entries

The settings of a section are the defaults, overridden by the last entries with their names, whatever else stands in
the section or beside it (`ofEntries_eq`). Other entries show in one way only: their names are put in order, and where
they belong to different orders there are no settings at all (`ofText_section`).
-/

namespace IndicatorScript

namespace Yaml

/-- The orders in which values are compared. -/
inductive Order where
  | nothing | numbers | texts | octets | dates
  /-- Moments with, or without, the distance from universal time. -/
  | moments (areZoned : Bool)
  deriving DecidableEq

/-- The order that a scalar belongs to. Truth values are numbers, and collections belong to no order. -/
def Value.order? : Value → Option Order
  | .null => some .nothing
  | .boolean _ | .integer _ | .number _ => some .numbers
  | .text _ => some .texts
  | .octets _ => some .octets
  | .date _ => some .dates
  | .moment m => some (.moments m.offset.isSome)
  | .sequence _ | .mapping _ | .set _ => none

end Yaml

def SettingsError.IsUnordered : SettingsError → Prop
  | .unorderedNames _ _ | .unorderedTimes | .unorderedOffsets => True
  | .malformed _ | .sectionNotMapping => False

namespace Settings

open Yaml (Document)

/-- A text is a document in which the section `engine` is a mapping from scalars. -/
structure HasSection (text : String) (document : Document) (entries : List (Yaml.Value × Yaml.Value)) : Prop where
  read : Yaml.document (Text.unifyLineBreaks text) = .ok document
  isMapping : ((document.entries? document.root).bind (named? · "engine")).bind document.entries? = some entries
  scalars : ∀ entry ∈ entries, entry.1.isKey = true

def settingsOf (entries : List (Yaml.Value × Yaml.Value)) : List (Yaml.Value × Yaml.Value) :=
  entries.filter (isKnown ·.1)

def otherNames (entries : List (Yaml.Value × Yaml.Value)) : List Yaml.Value := (entries.map (·.1)).filter (!isKnown ·)

def OneOrder (values : List Yaml.Value) : Prop := ∀ first ∈ values, ∀ second ∈ values, first.order? = second.order?

/-- The defaults with the settings that the entries give. -/
def overridden (document : Document) (entries : List (Yaml.Value × Yaml.Value)) : Settings :=
  let logFile := (named? entries "log_file").getD .null
  { logLevel := (named? entries "log_level").getD (.text "INFO")
    logFile
    maxStatements := (named? entries "max_statements").getD (.integer 1000)
    maxBars := (named? entries "max_bars").getD (.integer 100000)
    maxNesting := (named? entries "max_nesting_depth").getD (.integer 50)
    logsToFile := isThere document logFile }

/-! ## Entries by name -/

def isNamed (name : String) : Yaml.Value → Bool
  | .text given => given = name
  | _ => false

theorem named?_cons (key value : Yaml.Value) (rest : List (Yaml.Value × Yaml.Value)) (name : String) :
    named? ((key, value) :: rest) name = (named? rest name).or (if isNamed name key then some value else none) := by
  simp only [named?, List.findRev?_eq_find?_reverse, List.reverse_cons, List.find?_append, Option.map_or]
  refine congrArg (Option.or _) ?_
  cases key with
  | text given => by_cases same : given = name <;> simp [isNamed, same]
  | _ => rfl

theorem getD_named?_cons (given : String) (value default : Yaml.Value) (rest : List (Yaml.Value × Yaml.Value))
    (name : String) :
    (named? ((.text given, value) :: rest) name).getD default =
      (named? rest name).getD (if given = name then value else default) := by
  rw [named?_cons, Option.getD_or]
  by_cases same : given = name <;> simp [isNamed, same]

theorem isKnown_of_isNamed {name : String} {key : Yaml.Value} (isName : name ∈ names)
    (named : isNamed name key = true) : isKnown key = true := by
  cases key with
  | text given =>
    obtain rfl : given = name := of_decide_eq_true named
    exact List.contains_iff_mem.mpr isName
  | _ => cases named

theorem named?_settingsOf (entries : List (Yaml.Value × Yaml.Value)) {name : String} (isName : name ∈ names) :
    named? (settingsOf entries) name = named? entries name := by
  induction entries with
  | nil => rfl
  | cons entry rest ih =>
    rcases entry with ⟨key, value⟩
    rw [named?_cons, ← ih]
    by_cases known : isKnown key = true
    · have kept : settingsOf ((key, value) :: rest) = (key, value) :: settingsOf rest := List.filter_cons_of_pos known
      rw [kept, named?_cons]
    · have dropped : settingsOf ((key, value) :: rest) = settingsOf rest := List.filter_cons_of_neg known
      rw [dropped, if_neg fun named => known (isKnown_of_isNamed isName named), Option.or_none]

/-! ## Overriding -/

theorem set_eq (settings : Settings) (name : String) (value : Yaml.Value) :
    settings.set name value =
      { logLevel := if name = "log_level" then value else settings.logLevel
        logFile := if name = "log_file" then value else settings.logFile
        maxStatements := if name = "max_statements" then value else settings.maxStatements
        maxBars := if name = "max_bars" then value else settings.maxBars
        maxNesting := if name = "max_nesting_depth" then value else settings.maxNesting
        logsToFile := settings.logsToFile } := by
  unfold set
  split
  · rfl
  · rfl
  · rfl
  · rfl
  · rfl
  · next level file statements bars nesting =>
    rw [if_neg level, if_neg file, if_neg statements, if_neg bars, if_neg nesting]

theorem foldl_set (entries : List (Yaml.Value × Yaml.Value)) (settings : Settings) :
    entries.foldl (fun settings (name, value) =>
        match name with
        | .text name => settings.set name value
        | _ => settings) settings =
      { logLevel := (named? entries "log_level").getD settings.logLevel
        logFile := (named? entries "log_file").getD settings.logFile
        maxStatements := (named? entries "max_statements").getD settings.maxStatements
        maxBars := (named? entries "max_bars").getD settings.maxBars
        maxNesting := (named? entries "max_nesting_depth").getD settings.maxNesting
        logsToFile := settings.logsToFile } := by
  induction entries generalizing settings with
  | nil => rfl
  | cons entry rest ih =>
    rcases entry with ⟨key, value⟩
    rw [List.foldl_cons, ih]
    cases key with
    | text given =>
      simp only [set_eq, getD_named?_cons]
    | _ => simp only [named?_cons, isNamed, Bool.false_eq_true, if_false, Option.or_none]

theorem ofEntries_eq (document : Document) (entries : List (Yaml.Value × Yaml.Value)) :
    ofEntries document entries = overridden document entries :=
  congrArg (fun settings : Settings => { settings with logsToFile := isThere document settings.logFile })
    (foldl_set entries {})

theorem overridden_settingsOf (document : Document) (entries : List (Yaml.Value × Yaml.Value)) :
    overridden document (settingsOf entries) = overridden document entries := by
  have kept (name : String) (isName : name ∈ names) := named?_settingsOf entries isName
  simp only [overridden, kept "log_level" (by decide), kept "log_file" (by decide), kept "max_statements" (by decide),
    kept "max_bars" (by decide), kept "max_nesting_depth" (by decide)]

/-! ## Names in order -/

theorem unordered?_eq_none_iff {first second : Yaml.Value} (isKey : first.isKey = true)
    (isKey' : second.isKey = true) : unordered? first second = none ↔ first.order? = second.order? := by
  cases first <;> cases isKey <;> cases second <;> cases isKey' <;>
    simp [unordered?, Yaml.Value.order?, orderOf, Yaml.Value.typeName]

theorem isUnordered_of_unordered? {first second : Yaml.Value} {e : SettingsError}
    (unordered : unordered? first second = some e) : e.IsUnordered := by
  unfold unordered? at unordered
  split at unordered
  · split at unordered
    · cases unordered
    · cases unordered
      trivial
  · cases unordered
    trivial
  · cases unordered
    trivial
  · split at unordered
    · cases unordered
    · cases unordered
      trivial

/-- The first of the other names stands for all of them. -/
theorem oneOrder_cons_iff {first : Yaml.Value} {rest : List Yaml.Value} :
    OneOrder (first :: rest) ↔ ∀ second ∈ rest, first.order? = second.order? := by
  constructor
  · intro one second mem
    exact one first List.mem_cons_self second (List.mem_cons_of_mem first mem)
  · intro same
    have like (second : Yaml.Value) (mem : second ∈ first :: rest) : first.order? = second.order? := by
      rcases List.mem_cons.mp mem with rfl | mem
      · rfl
      · exact same second mem
    intro second mem third mem'
    exact (like second mem).symm.trans (like third mem')

theorem checkNames_yields {entries : List (Yaml.Value × Yaml.Value)}
    (scalars : ∀ entry ∈ entries, entry.1.isKey = true) :
    Yields (fun _ => OneOrder (otherNames entries)) (fun e => e.IsUnordered ∧ ¬ OneOrder (otherNames entries))
      (checkNames entries) := by
  have areKeys : ∀ name ∈ otherNames entries, name.isKey = true := by
    intro name mem
    rcases List.mem_map.mp (List.mem_filter.mp mem).1 with ⟨entry, isIn, rfl⟩
    exact scalars entry isIn
  unfold checkNames
  rw [← otherNames]
  cases others : otherNames entries with
  | nil => exact fun _ => nofun
  | cons first rest =>
    rw [others] at areKeys
    have isFirst : first.isKey = true := areKeys first List.mem_cons_self
    dsimp only
    split
    · next e found =>
      rcases List.exists_of_findSome?_eq_some found with ⟨second, mem, unordered⟩
      have isSecond : second.isKey = true := areKeys second (List.mem_cons_of_mem first mem)
      refine ⟨isUnordered_of_unordered? unordered, fun one => ?_⟩
      rw [(unordered?_eq_none_iff isFirst isSecond).mpr (oneOrder_cons_iff.mp one second mem)] at unordered
      cases unordered
    · next none =>
      refine oneOrder_cons_iff.mpr fun second mem => ?_
      have isSecond : second.isKey = true := areKeys second (List.mem_cons_of_mem first mem)
      exact (unordered?_eq_none_iff isFirst isSecond).mp (List.findSome?_eq_none_iff.mp none second mem)

/-! ## Sections -/

section Sections

variable {text text' : String} {document document' : Document} {entries entries' : List (Yaml.Value × Yaml.Value)}

theorem HasSection.ofText_eq (has : HasSection text document entries) :
    ofText text = (checkNames entries).map fun _ => overridden document entries := by
  rcases Option.bind_eq_some_iff.mp has.isMapping with ⟨engine, found, isMapping⟩
  rw [ofText, has.read]
  dsimp only
  rw [ofDocument, found]
  dsimp only
  rw [isMapping]
  dsimp only
  rw [ofEntries_eq]
  cases checkNames entries <;> rfl

theorem HasSection.ofText_of_oneOrder (has : HasSection text document entries)
    (one : OneOrder (otherNames entries)) : ofText text = .ok (overridden document entries) := by
  have yields := checkNames_yields has.scalars
  rw [has.ofText_eq]
  cases checked : checkNames entries with
  | ok => rfl
  | error e => exact absurd one (yields.fails checked).2

theorem overridden_congr (same : settingsOf entries' = settingsOf entries)
    (asMuch : ∀ file, named? entries "log_file" = some file → isThere document' file = isThere document file) :
    overridden document' entries' = overridden document entries := by
  rw [← overridden_settingsOf document', same, overridden_settingsOf]
  have kept : isThere document' ((named? entries "log_file").getD .null) =
      isThere document ((named? entries "log_file").getD .null) := by
    cases found : named? entries "log_file" with
    | none => rfl
    | some file => exact asMuch file found
  simp only [overridden, kept]

/-- What else stands in a section, or beside it, can only fail by names that are in no common order. -/
theorem ofText_section (has : HasSection text document entries) :
    (OneOrder (otherNames entries) → ofText text = .ok (overridden document (settingsOf entries))) ∧
    (¬ OneOrder (otherNames entries) → ∃ e, ofText text = .error e ∧ e.IsUnordered) ∧
    ∀ text' document' entries', HasSection text' document' entries' →
      OneOrder (otherNames entries) → OneOrder (otherNames entries') → settingsOf entries' = settingsOf entries →
      (∀ file, named? entries "log_file" = some file → isThere document' file = isThere document file) →
      ofText text' = ofText text := by
  refine ⟨fun one => ?_, fun several => ?_, fun text' document' entries' has' one one' same asMuch => ?_⟩
  · rw [overridden_settingsOf, has.ofText_of_oneOrder one]
  · have yields := checkNames_yields has.scalars
    rw [has.ofText_eq]
    cases checked : checkNames entries with
    | ok => exact absurd (yields.gives _ checked) several
    | error e => exact ⟨e, rfl, (yields.fails checked).1⟩
  · rw [has'.ofText_of_oneOrder one', has.ofText_of_oneOrder one, overridden_congr same asMuch]

end Sections

/-! ## Samples -/

deriving instance DecidableEq for Yaml.Value

def documentOf (text : String) : Document := (Yaml.document (Text.unifyLineBreaks text)).toOption.getD .nothing

theorem hasSection_of_isMapping {text : String} {entries : List (Yaml.Value × Yaml.Value)}
    (isMapping : (((documentOf text).entries? (documentOf text).root).bind (named? · "engine")).bind
      (documentOf text).entries? = some entries)
    (scalars : ∀ entry ∈ entries, entry.1.isKey = true) : HasSection text (documentOf text) entries := by
  cases read : Yaml.document (Text.unifyLineBreaks text) with
  | error e =>
    have nothing : documentOf text = .nothing := by
      rw [documentOf, read]
      rfl
    rw [nothing] at isMapping
    cases isMapping
  | ok document =>
    have same : documentOf text = document := by
      rw [documentOf, read]
      rfl
    exact ⟨read.trans (congrArg Except.ok same.symm), isMapping, scalars⟩

namespace Sample

def amongNumbers : String := "engine:\n  7: a\n  max_bars: 5\n  true: b\n"

def alone : String := "other: 1\nengine: {max_bars: 5}\n"

def datesAndMoments : String := "engine:\n  2020-01-01: a\n  2020-01-01 10:00:00: b\n"

theorem amongNumbers_section : HasSection amongNumbers (documentOf amongNumbers)
    [(.integer 7, .text "a"), (.text "max_bars", .integer 5), (.boolean true, .text "b")] :=
  hasSection_of_isMapping (by decide +kernel) (by decide)

theorem alone_section : HasSection alone (documentOf alone) [(.text "max_bars", .integer 5)] :=
  hasSection_of_isMapping (by decide +kernel) (by decide)

theorem datesAndMoments_section : HasSection datesAndMoments (documentOf datesAndMoments)
    [(.date ⟨2020, 1, 1⟩, .text "a"), (.moment ⟨⟨2020, 1, 1⟩, 10, 0, 0, 0, none⟩, .text "b")] :=
  hasSection_of_isMapping (by decide +kernel) (by decide)

end Sample

theorem ofText_section_sample :
    ofText Sample.amongNumbers = .ok { ({} : Settings) with maxBars := .integer 5 } ∧
    ofText Sample.alone = ofText Sample.amongNumbers ∧
    ∃ e, ofText Sample.datesAndMoments = .error e ∧ e.IsUnordered := by
  have numbers : OneOrder [.integer 7, .boolean true] := by
    unfold OneOrder
    decide
  have mixed : ¬ OneOrder [.date ⟨2020, 1, 1⟩, .moment ⟨⟨2020, 1, 1⟩, 10, 0, 0, 0, none⟩] := by
    unfold OneOrder
    decide
  have among := ofText_section Sample.amongNumbers_section
  exact ⟨among.1 numbers, among.2.2 _ _ _ Sample.alone_section numbers (fun _ => nofun) rfl (fun _ => nofun),
    (ofText_section Sample.datesAndMoments_section).2.1 mixed⟩

/-- None of the entries is a setting, and yet there are no settings. -/
theorem ofText_datesAndMoments :
    HasSection Sample.datesAndMoments (documentOf Sample.datesAndMoments)
      [(.date ⟨2020, 1, 1⟩, .text "a"), (.moment ⟨⟨2020, 1, 1⟩, 10, 0, 0, 0, none⟩, .text "b")] ∧
    ofText Sample.datesAndMoments = .error .unorderedTimes := by
  refine ⟨Sample.datesAndMoments_section, ?_⟩
  rw [Sample.datesAndMoments_section.ofText_eq]
  rfl

end Settings

end IndicatorScript
