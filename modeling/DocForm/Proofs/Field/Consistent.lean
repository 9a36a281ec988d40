import DocForm.Proofs.Field.WellFormed

/-! What holds of a declaration within itself: names differ, lower bounds are not above upper ones,
and examples are of their kind. Main statement: the definition of a field that can be read is
consistent, wherever its options and columns come from. -/

namespace DocForm

/-- Where both bounds are given, the upper one is not below the lower one. -/
def InOrder {α : Type} [LT α] (lower upper : Option α) : Prop :=
  ∀ low ∈ lower, ∀ high ∈ upper, ¬ high < low

namespace Constraints

/-- Each lower bound is beside an upper bound that is not below it. Dates go by the calendar. -/
def BoundsOrdered : Constraints → Prop
  | .string limits => InOrder limits.minLength limits.maxLength
  | .number limits => InOrder limits.min limits.max
  | .stringList limits | .urlList limits => InOrder limits.minItems limits.maxItems ∧
      InOrder limits.itemMinLength limits.itemMaxLength
  | .multiSelect limits => InOrder limits.minSelections limits.maxSelections
  | .date limits => ∀ low ∈ limits.min, ∀ high ∈ limits.max, ∃ first last,
      parseDate? low = some first ∧ parseDate? high = some last ∧ last.before first = false
  | .year limits => InOrder limits.min limits.max
  | .table limits => InOrder limits.minRows limits.maxRows
  | .singleSelect _ | .checkboxes _ | .url _ => True

/-- The examples that are shown with a field; nothing is typed into choosers and tables. -/
def examples : Constraints → List String
  | .string limits => limits.hints.examples
  | .number limits => limits.hints.examples
  | .stringList limits | .urlList limits => limits.hints.examples
  | .url hints => hints.examples
  | .date limits => limits.hints.examples
  | .year limits => limits.hints.examples
  | .singleSelect _ | .multiSelect _ | .checkboxes _ | .table _ => []

/-- The ids of the declared options. -/
def optionIds (constraints : Constraints) : List String :=
  (constraints.options?.getD []).map (·.id)

/-- The ids of the declared columns. -/
def columnIds (constraints : Constraints) : List String :=
  (constraints.table?.map (·.columnIds)).getD []

end Constraints

/-- The texts that a field of a kind reads as a value of the kind. -/
def FieldKind.accepts (kind : FieldKind) (text : String) : Bool :=
  match kind with
  | .number => (parseNumber? text).isSome
  | .url | .urlList => isHttpUrl text
  | .date => (parseDate? text).isSome
  | .year => (parseYear? text).isSome
  | .string | .stringList | .singleSelect | .multiSelect | .checkboxes | .table => true

/-- The parts of constraints do not contradict each other. -/
structure Constraints.Consistent (constraints : Constraints) : Prop where
  options : WellNamed constraints.optionIds
  columns : WellNamed constraints.columnIds
  bounds : constraints.BoundsOrdered
  examples : ∀ sample ∈ constraints.examples, constraints.kind.accepts sample = true

/-- The parts of a definition do not contradict each other. -/
structure FieldDefinition.Consistent (field : FieldDefinition) : Prop where
  identifier : isIdentifier field.id = true
  /-- Every option of a field in explicit mode has to be answered. -/
  explicit : field.checkboxMode? = some .explicit → field.required = true
  constraints : field.constraints.Consistent

theorem wellNamed_nil : WellNamed [] := ⟨by simp, List.nodup_nil⟩

namespace Heading

variable {heading : Heading} {settings : Settings} {entry : Entry} {name : String}

theorem inOrder_of_counts {lowerName upperName : String} {lower upper : Option Nat}
    (read : heading.counts lowerName upperName = .ok (lower, upper)) : InOrder lower upper := by
  intro low isLow high isHigh
  exact Nat.not_lt.mpr ((counts_eq_ok read).2.2 low high isLow isHigh)

theorem valid_of_hints {strict : Bool} {valid : String → Bool} {hints : Hints}
    {remarks : List String} (read : heading.hints strict valid = .ok (hints, remarks)) :
    ∀ sample ∈ hints.examples, valid sample = true := by
  simp only [Heading.hints, bind_eq_ok] at read
  obtain ⟨placeholder, _, examples, _, read⟩ := read
  split at read
  · exact absurd read refuse_ne_ok
  · rename_i noneInvalid
    have same : hints.examples = examples.getD [] := by
      split at read
      · cases read
        rfl
      · simp only [ite_eq_ok, refuse_ne_ok, and_false, false_or] at read
        obtain ⟨_, read⟩ := read
        cases read
        rfl
    intro sample member
    rw [same] at member
    simpa using List.find?_eq_none.mp noneInvalid sample member

/-- A bound of dates is one itself. -/
theorem date_of_dateBound {bound : Option String} (read : heading.dateBound name = .ok bound) :
    ∀ text ∈ bound, ∃ date, parseDate? text = some date := by
  rintro text ⟨⟩
  rcases read_eq_ok.mp read with ⟨_, absent⟩ | ⟨value, result, _, accepted, same⟩
  · cases absent
  · cases same
    obtain ⟨written, kept, rfl⟩ := Option.map_eq_some_iff.mp accepted
    have dated := (Option.filter_eq_some_iff.mp kept).2
    obtain ⟨date, found⟩ := Option.isSome_iff_exists.mp dated
    refine ⟨date, ?_⟩
    rwa [parseDate?, Text.trim_trim]

theorem wellNamed_listedOptions {marked : List MarkedOption}
    (listed : heading.markedOptions = .ok marked) :
    WellNamed (heading.node.listedOptions.map (·.id)) := by
  refine ⟨?_, nodup_optionIds listed⟩
  intro id member
  rw [optionIds_of_markedOptions listed] at member
  obtain ⟨option, present, rfl⟩ := List.mem_map.mp member
  exact ((markOptions_eq_ok listed).2.1 option present).1

theorem consistent_of_readTable (read : heading.readTable = .ok entry) :
    entry.constraints.Consistent := by
  have allowed := allow_of_readTable read
  obtain ⟨_, minRows, maxRows, _, _, table, _, counted, _, _, _, rfl⟩ := readTable_eq_ok read
  have named : WellNamed (table.columns.map (·.id)) := allowed.1
  exact ⟨wellNamed_nil, named, inOrder_of_counts counted, by simp [Constraints.examples]⟩

theorem consistent_of_entry (read : heading.entry settings = .ok entry) :
    entry.constraints.Consistent := by
  cases same : heading.kind with
  | string =>
    rw [Heading.entry, same] at read
    obtain ⟨_, _, _, _, _, _, _, counted, _, _, rfl⟩ := readString_eq_ok read
    exact ⟨wellNamed_nil, wellNamed_nil, inOrder_of_counts counted, fun _ _ => rfl⟩
  | number =>
    rw [Heading.entry, same] at read
    obtain ⟨_, min, max, _, _, _, _, _, _, ordered, _, hinted, rfl⟩ := readNumber_eq_ok read
    have inOrder : InOrder min max := by
      intro low isLow high isHigh
      simpa using ordered low high isLow isHigh
    exact ⟨wellNamed_nil, wellNamed_nil, inOrder, valid_of_hints hinted⟩
  | stringList =>
    rw [Heading.entry, same] at read
    obtain ⟨_, _, _, _, _, _, _, _, _, counted, measured, _, _, rfl⟩ := readList_eq_ok read
    have inOrder := And.intro (inOrder_of_counts counted) (inOrder_of_counts measured)
    exact ⟨wellNamed_nil, wellNamed_nil, inOrder, fun _ _ => rfl⟩
  | urlList =>
    rw [Heading.entry, same] at read
    obtain ⟨_, _, _, _, _, _, _, _, _, counted, measured, _, hinted, rfl⟩ := readList_eq_ok read
    have inOrder := And.intro (inOrder_of_counts counted) (inOrder_of_counts measured)
    refine ⟨wellNamed_nil, wellNamed_nil, inOrder, fun sample member => ?_⟩
    have valid := valid_of_hints hinted sample member
    simpa only [if_true, Constraints.kind, FieldKind.accepts, Bool.not_true,
      Bool.false_or] using valid
  | singleSelect =>
    rw [Heading.entry, same] at read
    obtain ⟨_, _, _, _, listed, rfl⟩ := readSingleSelect_eq_ok read
    exact ⟨wellNamed_listedOptions listed, wellNamed_nil, trivial, by simp [Constraints.examples]⟩
  | multiSelect =>
    rw [Heading.entry, same] at read
    obtain ⟨_, _, _, _, _, _, counted, listed, rfl⟩ := readMultiSelect_eq_ok read
    exact ⟨wellNamed_listedOptions listed, wellNamed_nil, inOrder_of_counts counted,
      by simp [Constraints.examples]⟩
  | checkboxes =>
    rw [Heading.entry, same] at read
    obtain ⟨_, _, _, _, _, _, _, _, _, _, listed, _, rfl⟩ := readCheckboxes_eq_ok read
    exact ⟨wellNamed_listedOptions listed, wellNamed_nil, trivial, by simp [Constraints.examples]⟩
  | url =>
    rw [Heading.entry, same] at read
    obtain ⟨_, _, _, _, hinted, rfl⟩ := readUrl_eq_ok read
    exact ⟨wellNamed_nil, wellNamed_nil, trivial, valid_of_hints hinted⟩
  | date =>
    rw [Heading.entry, same] at read
    obtain ⟨_, min, max, _, _, _, readMin, readMax, ordered, hinted, rfl⟩ := readDate_eq_ok read
    refine ⟨wellNamed_nil, wellNamed_nil, ?_, valid_of_hints hinted⟩
    -- The bounds are kept as they are written, and compared as days.
    rintro low isLow high isHigh
    obtain ⟨first, found⟩ := date_of_dateBound readMin low isLow
    obtain ⟨last, reached⟩ := date_of_dateBound readMax high isHigh
    refine ⟨first, last, found, reached, ordered first last ?_ ?_⟩
    · exact Option.bind_eq_some_iff.mpr ⟨low, isLow, found⟩
    · exact Option.bind_eq_some_iff.mpr ⟨high, isHigh, reached⟩
  | year =>
    rw [Heading.entry, same] at read
    obtain ⟨_, min, max, _, _, _, _, _, ordered, hinted, rfl⟩ := readYear_eq_ok read
    have inOrder : InOrder min max := by
      intro low isLow high isHigh
      exact Int.not_lt.mpr (ordered low high isLow isHigh)
    exact ⟨wellNamed_nil, wellNamed_nil, inOrder, valid_of_hints hinted⟩
  | table =>
    rw [Heading.entry, same] at read
    exact consistent_of_readTable read

end Heading

/-- The definition of a field that can be read is consistent. -/
theorem consistent_of_parseField {settings : Settings} {node : Node} {parsed : ParsedField}
    (read : parseField settings node = .ok (some parsed)) : parsed.definition.Consistent := by
  obtain ⟨kind, known, readTag⟩ := exists_readField_of_parseField read
  obtain ⟨heading, entry, _, entered, taken, _, required, constraints, _⟩ := readField_eq_ok readTag
  refine ⟨isIdentifier_of_readField readTag, ?_, ?_⟩
  · intro explicit
    rw [FieldDefinition.checkboxMode?, constraints] at explicit
    rw [required]
    exact taken.required_of_explicit explicit
  · rw [constraints]
    exact Heading.consistent_of_entry entered

/-- A day of one leap year. -/
def leapYearDay : Node where
  type := "tag"
  tag := some "date-field"
  attributes := .ofList [("id", .text "day"), ("label", .text "Day"),
    ("min", .text "2024-01-01"), ("max", .text "2024-12-31"),
    ("examples", .list [.text "2024-02-29"])]
  children := []
  lines := [1]

theorem consistent_leapYearDay :
    ∃ parsed, parseField .standard leapYearDay = .ok (some parsed) ∧
      parsed.definition.constraints =
        .date ⟨some "2024-01-01", some "2024-12-31", ⟨none, ["2024-02-29"]⟩⟩ ∧
      parsed.definition.Consistent := by
  have reads : ((parseField .standard leapYearDay).toOption.bind id).map
      (·.definition.constraints) =
        some (.date ⟨some "2024-01-01", some "2024-12-31", ⟨none, ["2024-02-29"]⟩⟩) := by
    decide +kernel
  obtain ⟨parsed, found, constraints⟩ := Option.map_eq_some_iff.mp reads
  obtain ⟨outcome, read, rfl⟩ := Option.bind_eq_some_iff.mp found
  have read := toOption_eq_some.mp read
  exact ⟨parsed, read, constraints, consistent_of_parseField read⟩

end DocForm
