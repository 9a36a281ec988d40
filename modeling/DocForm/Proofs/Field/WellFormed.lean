import DocForm.Proofs.Field.Legal

/-! What a parsed answer looks like from within: its texts are trimmed, and it speaks of the
declared options or columns, each of them once. Main statement: the answer of a field that can be
read is well formed for the definition that is read beside it. -/

namespace DocForm

/-- A text that shows something and has no white space at either end. -/
structure Text.IsBare (text : String) : Prop where
  visible : ∃ c ∈ text.toList, Text.isBlank c = false
  trimmed : Text.trim text = text

/-- A value for the declared options or columns: a choice among the options in their order, a state
of the mode for each option, or rows with one response in each column. -/
def Constraints.Cover : Constraints → FieldValue → Prop
  | .singleSelect options, .singleSelect selected => ∀ id ∈ selected, id ∈ options.map (·.id)
  | .multiSelect limits, .multiSelect selected =>
      selected.Sublist (limits.options.map (·.id)) ∧ selected.Nodup
  | .checkboxes limits, .checkboxes values => values.keys.Perm (limits.options.map (·.id)) ∧
      ∀ state ∈ values.values, state.allowedIn limits.mode = true
  | .table limits, .table rows => ∀ row ∈ rows, row.keys.Perm limits.columnIds ∧
      ∀ cell ∈ row.values, cell ≠ .unanswered
  | constraints, value => value.kind = constraints.kind

/-- A value that answers a field as its definition asks. -/
structure FieldDefinition.IsAnsweredBy (field : FieldDefinition) (value : FieldValue) : Prop where
  kind : value.kind = field.kind
  filled : value.isEmpty field.checkboxMode? = false
  bare : ∀ text ∈ value.texts, Text.IsBare text
  parts : field.constraints.Cover value

namespace Text

theorem isBare_trim {text : String} (left : (trim text).isEmpty = false) : IsBare (trim text) where
  visible := by
    apply Classical.byContradiction
    intro hidden
    have blank : ∀ c ∈ (trim text).toList, isBlank c = true := by simpa using hidden
    have nothing : trimmed (trim text).toList = [] := trimmed_eq_nil_iff.mpr blank
    have empty : trim text = "" := by
      rw [← trim_trim text, trim, nothing]
    simp [empty] at left
  trimmed := trim_trim text

theorem isBare_of_trim? {text bare : String} (found : trim? text = some bare) : IsBare bare := by
  simp only [trim?, Option.ite_none_left_eq_some, Option.some.injEq, Bool.not_eq_true] at found
  obtain ⟨left, rfl⟩ := found
  exact isBare_trim left

end Text

theorem isBare_of_mem_listItems {content item : String} (member : item ∈ listItems content) :
    Text.IsBare item := by
  obtain ⟨listed, left⟩ := List.mem_filter.mp member
  obtain ⟨line, _, rfl⟩ := List.mem_map.mp listed
  rw [withoutBullet] at left ⊢
  exact Text.isBare_trim (by simpa only [Bool.not_eq_true'] using left)

namespace Node

variable {node : Node} {kind : FieldKind} {text : String}

theorem isBare_typedText (found : node.typedText? = some text) : Text.IsBare text := by
  obtain ⟨written, _, left⟩ := Option.bind_eq_some_iff.mp found
  exact Text.isBare_of_trim? left

theorem isBare_of_mem_texts_answer (member : text ∈ (node.answer kind).texts) :
    Text.IsBare text := by
  cases kind with
  | string | url | date => exact isBare_typedText (by simpa [answer, FieldValue.texts] using member)
  | stringList | urlList => exact isBare_of_mem_listItems member
  | number | singleSelect | multiSelect | checkboxes | year | table => cases member

end Node

/-- Beyond what is allowed, only three kinds ask for more. -/
theorem Constraints.Allow.cover {constraints : Constraints} {value : FieldValue}
    (allowed : constraints.Allow value) (multi : constraints.kind ≠ .multiSelect)
    (boxes : constraints.kind ≠ .checkboxes) (table : constraints.kind ≠ .table) :
    constraints.Cover value := by
  unfold Constraints.Allow at allowed
  split at allowed
  case h_1 => exact allowed
  case h_2 => exact absurd rfl multi
  case h_3 => exact absurd rfl boxes
  case h_4 => exact absurd rfl table
  case h_5 =>
    unfold Constraints.Cover
    split <;> simp_all

namespace Heading

variable {heading : Heading} {settings : Settings} {entry : Entry} {marked : List MarkedOption}

theorem optionIds_of_markedOptions (listed : heading.markedOptions = .ok marked) :
    heading.node.listedOptions.map (·.id) = marked.map (·.option.id) := by
  rw [listedOptions_of_markedOptions listed, List.map_map]
  rfl

/-- The chosen ids stand in the order of the options. -/
theorem crossedIds_sublist (listed : heading.markedOptions = .ok marked) :
    heading.node.crossedIds.Sublist (heading.node.listedOptions.map (·.id)) := by
  rw [crossedIds_of_markedOptions listed, optionIds_of_markedOptions listed]
  exact List.filter_sublist.map _

theorem nodup_optionIds (listed : heading.markedOptions = .ok marked) :
    (heading.node.listedOptions.map (·.id)).Nodup := by
  rw [optionIds_of_markedOptions listed]
  exact (markOptions_eq_ok listed).2.2

theorem keys_listedStates (mode : CheckboxMode) (listed : heading.markedOptions = .ok marked) :
    (heading.node.listedStates mode).keys.Perm (heading.node.listedOptions.map (·.id)) := by
  have ids : (marked.map fun option => (option.option.id, option.item.state mode)).map (·.1) =
      heading.node.listedOptions.map (·.id) := by
    rw [optionIds_of_markedOptions listed, List.map_map]
    rfl
  rw [listedStates_of_markedOptions mode listed, ← ids]
  apply Dict.keys_ofList
  rw [ids]
  exact nodup_optionIds listed

theorem keys_parseRow {columns : List TableColumn} (named : WellNamed (columns.map (·.id)))
    (line : String) : (parseRow columns line).keys.Perm (columns.map (·.id)) := by
  have ids := ids_rowCells columns (splitRow line)
  rw [← ids] at named ⊢
  exact Dict.keys_ofList named.2

theorem ne_unanswered_of_mem_parseRow {columns : List TableColumn} {line : String}
    {cell : CellResponse} (member : cell ∈ (parseRow columns line).values) :
    cell ≠ .unanswered := by
  obtain ⟨entry, present, rfl⟩ := List.mem_map.mp member
  exact ne_unanswered_of_mem_rowCells (mem_of_mem_orderEntries present)

theorem cover_of_readTable (read : heading.readTable = .ok entry) :
    entry.constraints.Cover entry.value := by
  obtain ⟨_, _, _, declared, _, table, _, _, explicit, _, found, rfl⟩ := readTable_eq_ok read
  rcases found with ⟨_, rfl⟩ | ⟨_, parsed⟩
  · intro row member
    cases member
  · have named : ∀ columns ∈ declared, WellNamed (columns.map (·.id)) := by
      rintro columns ⟨⟩
      exact wellNamed_of_explicitColumns explicit
    obtain ⟨wellNamed, body, rows⟩ := parseTable_eq_ok named parsed
    intro row member
    rw [rows] at member
    obtain ⟨line, _, rfl⟩ := List.mem_map.mp member
    exact ⟨keys_parseRow wellNamed line, fun cell => ne_unanswered_of_mem_parseRow⟩

theorem cover_of_entry (taken : entry.TakenFrom heading.node heading.kind)
    (read : heading.entry settings = .ok entry) : entry.constraints.Cover entry.value := by
  have allowed := allow_of_entry read
  have sameKind := taken.sameKind
  by_cases multi : heading.kind = .multiSelect
  · rw [Heading.entry, multi] at read
    obtain ⟨_, _, _, marked, _, _, _, listed, rfl⟩ := readMultiSelect_eq_ok read
    have ordered := crossedIds_sublist listed
    exact ⟨ordered, (nodup_optionIds listed).sublist ordered⟩
  by_cases boxes : heading.kind = .checkboxes
  · rw [Heading.entry, boxes] at read
    obtain ⟨_, _, _, _, _, _, _, _, _, _, listed, _, rfl⟩ := readCheckboxes_eq_ok read
    refine ⟨keys_listedStates _ listed, ?_⟩
    intro state member
    obtain ⟨entry, present, rfl⟩ := List.mem_map.mp member
    exact (allowed entry present).2
  by_cases table : heading.kind = .table
  · rw [Heading.entry, table] at read
    exact cover_of_readTable read
  · rw [← sameKind] at multi boxes table
    exact allowed.cover multi boxes table

end Heading

variable {settings : Settings} {node : Node}

theorem cover_of_readField {kind : FieldKind} {parsed : ParsedField} {value : FieldValue}
    (read : readField settings node kind = .ok parsed)
    (answered : parsed.response = .answered value) : parsed.definition.constraints.Cover value := by
  obtain ⟨heading, entry, headed, entered, taken, _, _, constraints, settled⟩ := readField_eq_ok read
  obtain ⟨sameNode, sameKind, _⟩ := Heading.ofNode_eq_ok headed
  rw [answered] at settled
  obtain ⟨rfl, _⟩ := settled.eq_value taken
  rw [constraints]
  exact Heading.cover_of_entry (by rwa [sameNode, sameKind]) entered

/-- The answer of a field that can be read is well formed for its definition. -/
theorem isAnsweredBy_of_parseField {parsed : ParsedField} {value : FieldValue}
    (read : parseField settings node = .ok (some parsed))
    (answered : parsed.response = .answered value) : parsed.definition.IsAnsweredBy value := by
  obtain ⟨kind, _, readTag⟩ := exists_readField_of_parseField read
  obtain ⟨heading, entry, headed, entered, taken, _, _, constraints, settled⟩ :=
    readField_eq_ok readTag
  obtain ⟨sameNode, sameKind, _⟩ := Heading.ofNode_eq_ok headed
  have takenWhole : entry.TakenFrom heading.node heading.kind := by rwa [sameNode, sameKind]
  obtain ⟨allowed, filled⟩ := allow_of_readField readTag answered
  rw [answered] at settled
  have sameAnswer := settled.eq_answer.1
  have sameValue := (settled.eq_value taken).1
  have parts := Heading.cover_of_entry takenWhole entered
  rw [← sameValue, ← constraints] at parts
  refine ⟨allowed.kind, filled, ?_, parts⟩
  intro text member
  rw [sameAnswer] at member
  exact Node.isBare_of_mem_texts_answer member

/-- Two people, of whom one has a cell too few and one a cell too many. -/
def people : Node where
  type := "tag"
  tag := some "table-field"
  attributes := .ofList [("id", .text "people"), ("label", .text "People"),
    ("columnIds", .list [.text "name", .text "born"])]
  children := [⟨"fence", none, .ofList [("language", .text "value"),
    ("content", .text "| Name | Born |\n|---|---|\n| Ada |\n| Alan | 1912 | London |\n")], [], [2]⟩]
  lines := [1]

theorem isAnsweredBy_people :
    ∃ parsed value, parseField .standard people = .ok (some parsed) ∧
      parsed.response = .answered value ∧ parsed.definition.IsAnsweredBy value := by
  have answers : (((parseField .standard people).toOption.bind id).bind
      (·.response.value?)).isSome = true := by decide +kernel
  obtain ⟨value, found⟩ := Option.isSome_iff_exists.mp answers
  obtain ⟨parsed, read, given⟩ := Option.bind_eq_some_iff.mp found
  obtain ⟨outcome, read, rfl⟩ := Option.bind_eq_some_iff.mp read
  have read := toOption_eq_some.mp read
  have answered : parsed.response = .answered value := by
    cases response : parsed.response <;> simp_all [Response.value?]
  exact ⟨parsed, value, read, answered, isAnsweredBy_of_parseField read answered⟩

end DocForm
