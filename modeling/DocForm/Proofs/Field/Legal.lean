import DocForm.Proofs.Field.Lifecycle

/-! What constraints allow an answer to be, whatever its limits say. Main statement: the answer
of a field that can be read is one that its constraints allow, and it is not empty. -/

namespace DocForm

/-- A row has a response in every column. -/
def TableLimits.Fills (limits : TableLimits) (row : TableRow) : Prop :=
  ∀ column ∈ limits.columns, ∃ cell, row.get? column.id = some cell ∧ cell ≠ .unanswered

namespace Constraints

/-- The value belongs to the kind of field, speaks of declared options only, and puts each of
them into a state of the mode; the rows of a table are full, below well-named columns. -/
def Allow : Constraints → FieldValue → Prop
  | .singleSelect options, .singleSelect selected => ∀ id ∈ selected, id ∈ options.map (·.id)
  | .multiSelect limits, .multiSelect selected => ∀ id ∈ selected, id ∈ limits.options.map (·.id)
  | .checkboxes limits, .checkboxes values => ∀ entry ∈ values.entries,
      entry.1 ∈ limits.options.map (·.id) ∧ entry.2.allowedIn limits.mode = true
  | .table limits, .table rows => WellNamed limits.columnIds ∧ ∀ row ∈ rows, limits.Fills row
  | constraints, value => value.kind = constraints.kind

theorem Allow.kind {constraints : Constraints} {value : FieldValue}
    (allowed : constraints.Allow value) : value.kind = constraints.kind := by
  unfold Constraints.Allow at allowed
  split at allowed
  case h_5 => exact allowed
  all_goals rfl

end Constraints

namespace Node

variable {node : Node} {id : String}

theorem mem_crossedIds_listed (crossed : id ∈ node.crossedIds) :
    id ∈ node.listedOptions.map (·.id) := by
  obtain ⟨item, member, named⟩ := List.mem_filterMap.mp crossed
  refine List.mem_map.mpr ⟨⟨id, item.label⟩, List.mem_filterMap.mpr ⟨item, ?_, ?_⟩, rfl⟩
  · exact (List.mem_filter.mp member).1
  · simp [named]

end Node

namespace Heading

variable {heading : Heading} {settings : Settings} {entry : Entry}

theorem allow_listedStates {mode : CheckboxMode} {marked : List MarkedOption}
    (listed : heading.markedOptions = .ok marked)
    (allowed : ∀ option ∈ marked, (option.item.state mode).allowedIn mode = true)
    (approval : ApprovalMode) (minDone : Option Nat) :
    (Constraints.checkboxes ⟨heading.node.listedOptions, mode, approval, minDone⟩).Allow
      (.checkboxes (heading.node.listedStates mode)) := by
  intro state member
  rw [listedStates_of_markedOptions mode listed] at member
  obtain ⟨option, present, rfl⟩ := List.mem_map.mp (mem_of_mem_orderEntries member)
  refine ⟨?_, allowed option present⟩
  rw [listedOptions_of_markedOptions listed, List.map_map]
  exact List.mem_map_of_mem (f := fun option : MarkedOption => option.option.id) present

theorem allow_of_readTable (read : heading.readTable = .ok entry) :
    entry.constraints.Allow entry.value := by
  obtain ⟨required, minRows, maxRows, declared, state, table, _, _, explicit, _, found, rfl⟩ :=
    readTable_eq_ok read
  have named : ∀ columns ∈ declared, WellNamed (columns.map (·.id)) := by
    rintro columns ⟨⟩
    exact wellNamed_of_explicitColumns explicit
  rcases found with ⟨_, rfl⟩ | ⟨_, parsed⟩
  · refine ⟨?_, by simp⟩
    cases declared with
    | none => exact ⟨by simp [TableLimits.columnIds], List.nodup_nil⟩
    | some columns => exact named columns rfl
  · obtain ⟨wellNamed, body, rows⟩ := parseTable_eq_ok named parsed
    refine ⟨wellNamed, fun row member column present => ?_⟩
    rw [rows] at member
    obtain ⟨line, _, rfl⟩ := List.mem_map.mp member
    exact exists_get?_parseRow line present

/-- Readers make no value that the constraints beside it rule out. -/
theorem allow_of_entry (read : heading.entry settings = .ok entry) :
    entry.constraints.Allow entry.value := by
  cases same : heading.kind with
  | string =>
    rw [Heading.entry, same] at read
    obtain ⟨_, _, _, _, _, _, _, _, _, _, rfl⟩ := readString_eq_ok read
    rfl
  | number =>
    rw [Heading.entry, same] at read
    obtain ⟨_, _, _, _, _, _, _, _, _, _, _, _, rfl⟩ := readNumber_eq_ok read
    rfl
  | stringList | urlList =>
    rw [Heading.entry, same] at read
    obtain ⟨_, _, _, _, _, _, _, _, _, _, _, _, _, rfl⟩ := readList_eq_ok read
    rfl
  | singleSelect =>
    rw [Heading.entry, same] at read
    obtain ⟨_, _, _, _, _, rfl⟩ := readSingleSelect_eq_ok read
    exact fun id chosen => Node.mem_crossedIds_listed (List.mem_of_mem_head? chosen)
  | multiSelect =>
    rw [Heading.entry, same] at read
    obtain ⟨_, _, _, _, _, _, _, _, rfl⟩ := readMultiSelect_eq_ok read
    exact fun id chosen => Node.mem_crossedIds_listed chosen
  | checkboxes =>
    rw [Heading.entry, same] at read
    obtain ⟨_, _, _, _, _, _, _, _, _, _, listed, allowed, rfl⟩ := readCheckboxes_eq_ok read
    exact allow_listedStates listed allowed _ _
  | url =>
    rw [Heading.entry, same] at read
    obtain ⟨_, _, _, _, _, rfl⟩ := readUrl_eq_ok read
    rfl
  | date =>
    rw [Heading.entry, same] at read
    obtain ⟨_, _, _, _, _, _, _, _, _, _, rfl⟩ := readDate_eq_ok read
    rfl
  | year =>
    rw [Heading.entry, same] at read
    obtain ⟨_, _, _, _, _, _, _, _, _, _, rfl⟩ := readYear_eq_ok read
    rfl
  | table =>
    rw [Heading.entry, same] at read
    exact allow_of_readTable read

end Heading

namespace Settles

variable {node : Node} {kind : FieldKind} {value : FieldValue}

/-- A tag with an answer holds no sentinel, and its answer is not empty. -/
theorem eq_answer (settled : Settles node kind (.answered value)) :
    value = node.answer kind ∧ node.sentinel? kind = none ∧ node.isUnfilled kind = false := by
  generalize same : Response.answered value = response at settled
  cases settled with
  | @sentinel held =>
    cases held with
    | mk kind reason => cases kind <;> simp [Sentinel.response] at same
  | answered bare filled =>
    cases same
    exact ⟨rfl, bare, filled⟩
  | unanswered | skipped | aborted => cases same

/-- The answer of a field is the value of its entry, and it is not empty. -/
theorem eq_value {entry : Entry} (taken : entry.TakenFrom node kind)
    (settled : Settles node kind (.answered value)) :
    value = entry.value ∧ entry.isEmpty = false := by
  obtain ⟨rfl, bare, filled⟩ := settled.eq_answer
  exact ⟨(taken.value bare).symm, by rw [taken.isEmpty bare, filled]⟩

end Settles

/-- What a parsed field answers is allowed by its constraints and holds an answer. -/
theorem allow_of_readField {settings : Settings} {node : Node} {kind : FieldKind}
    {parsed : ParsedField} {value : FieldValue}
    (read : readField settings node kind = .ok parsed)
    (answered : parsed.response = .answered value) :
    parsed.definition.constraints.Allow value ∧
      value.isEmpty parsed.definition.checkboxMode? = false := by
  obtain ⟨heading, entry, _, entered, taken, _, _, constraints, settled⟩ := readField_eq_ok read
  rw [answered] at settled
  obtain ⟨rfl, filled⟩ := settled.eq_value taken
  rw [FieldDefinition.checkboxMode?, constraints]
  exact ⟨Heading.allow_of_entry entered, filled⟩

end DocForm
