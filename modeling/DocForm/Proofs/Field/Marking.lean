import DocForm.Proofs.Field.Legal

/-! What the items of a chooser mean. Main statement: the options of a chooser are its items in their
order, its answer is what their markers stand for, and a chooser with an item that is no option or
with a marker that stands for nothing is refused, whatever its fence holds. -/

namespace DocForm

/-- The markers of a mode, each with the state that it stands for. -/
def CheckboxMode.markers : CheckboxMode → List (String × CheckboxState)
  | .multi => [("[ ]", .todo), ("[x]", .done), ("[X]", .done), ("[/]", .incomplete),
      ("[*]", .active), ("[-]", .na)]
  | .simple => [("[ ]", .todo), ("[x]", .done), ("[X]", .done)]
  | .explicit => [("[ ]", .unfilled), ("[y]", .yes), ("[Y]", .yes), ("[n]", .no), ("[N]", .no)]

/-- The markers of a select: blank or a cross. -/
def selectMarkers : List String := ["[ ]", "[x]", "[X]"]

/-- The state of an item in a mode: untouched without a marker, else what its marker stands for. -/
inductive OptionItem.Means (mode : CheckboxMode) (item : OptionItem) : CheckboxState → Prop where
  | unmarked (bare : item.marker = none) : Means mode item (.initial mode)
  | marked {marker : String} {state : CheckboxState} (written : item.marker = some marker)
      (listed : (marker, state) ∈ mode.markers) : Means mode item state

namespace Node

/-- The markers that stand for something in a chooser. -/
def markers (kind : FieldKind) (node : Node) : List String :=
  if kind = .checkboxes then node.checkboxMode.markers.map (·.1) else selectMarkers

/-- The items that are marked with a cross, in their order. -/
def crossedItems (node : Node) : List OptionItem :=
  node.optionItems.filter fun item => item.marker = some "[x]" || item.marker = some "[X]"

/-- A value is the choice that the markers of the items make. -/
def Chooses (node : Node) : FieldValue → Prop
  | .singleSelect selected => (node.crossedItems.map (·.id)).head? = some selected
  | .multiSelect selected => node.crossedItems.map (·.id) = selected.map some
  | .checkboxes values => ∀ id state, values.get? id = some state ↔
      ∃ item ∈ node.optionItems, item.id = some id ∧ item.Means node.checkboxMode state
  | _ => False

/-- A field is read from a chooser as its items and their markers have it. -/
structure Lists (node : Node) (kind : FieldKind) (parsed : ParsedField) : Prop where
  options : node.optionItems.map (fun item => (item.id, item.label)) =
    parsed.definition.options.map fun option => (some option.id, option.label)
  mode : kind = .checkboxes → parsed.definition.checkboxMode? = some node.checkboxMode
  choice : ∀ value, parsed.response = .answered value → value.kind = kind ∧ node.Chooses value

/-- An item of a chooser is no option, or its marker stands for nothing. -/
inductive Miswrites (node : Node) (kind : FieldKind) : Prop where
  | nameless {item : OptionItem} (member : item ∈ node.optionItems) (bare : item.id = none)
  | misnamed {item : OptionItem} {id : String} (member : item ∈ node.optionItems)
      (named : item.id = some id) (noIdentifier : isIdentifier id = false)
  | repeated (twice : ¬ (node.optionItems.map (·.id)).Nodup)
  | mismarked {item : OptionItem} {marker : String} (member : item ∈ node.optionItems)
      (written : item.marker = some marker) (unknown : marker ∉ node.markers kind)

end Node

theorem CheckboxMode.mem_markers_iff {mode : CheckboxMode} {marker : String}
    {state : CheckboxState} : (marker, state) ∈ mode.markers ↔
      (((CheckboxState.ofMarker? marker).map fun state =>
        if state = .todo then .initial mode else state).filter (·.allowedIn mode)) = some state := by
  unfold CheckboxState.ofMarker?
  split
  all_goals cases mode <;> simp_all [-Option.filter_eq_some_iff, Option.filter_some, markers,
    CheckboxState.initial, CheckboxState.allowedIn, eq_comm]

namespace CheckboxState

variable {marker : String}

theorem ofMarker?_eq_done_iff : ofMarker? marker = some .done ↔ marker = "[x]" ∨ marker = "[X]" := by
  unfold ofMarker?
  split <;> simp_all

theorem ofMarker?_eq_todo_iff : ofMarker? marker = some .todo ↔ marker = "[ ]" := by
  unfold ofMarker?
  split <;> simp_all

end CheckboxState

namespace OptionItem

variable {item : OptionItem}

theorem Means.marker_mem {mode : CheckboxMode} {state : CheckboxState} {marker : String}
    (means : item.Means mode state) (written : item.marker = some marker) :
    marker ∈ mode.markers.map (·.1) := by
  cases means with
  | unmarked bare => simp [bare] at written
  | marked there known =>
    cases written.symm.trans there
    exact List.mem_map.mpr ⟨_, known, rfl⟩

theorem isCrossed_iff :
    item.isCrossed = true ↔ item.marker = some "[x]" ∨ item.marker = some "[X]" := by
  simp only [isCrossed, decide_eq_true_eq, Option.bind_eq_some_iff,
    CheckboxState.ofMarker?_eq_done_iff]
  constructor
  · rintro ⟨marker, written, rfl | rfl⟩
    · exact .inl written
    · exact .inr written
  · rintro (written | written)
    · exact ⟨_, written, .inl rfl⟩
    · exact ⟨_, written, .inr rfl⟩

end OptionItem

theorem Node.crossedItems_eq (node : Node) :
    node.crossedItems = node.optionItems.filter OptionItem.isCrossed := by
  refine List.filter_congr fun item _ => Bool.eq_iff_iff.mpr ?_
  rw [OptionItem.isCrossed_iff]
  simp

namespace Heading

variable {heading : Heading} {settings : Settings} {entry : Entry} {marked : List MarkedOption}
  {option : MarkedOption} {mode : CheckboxMode} {state : CheckboxState}

/-- A checkbox has exactly the states that its item means. -/
theorem markedState_eq_ok_iff :
    heading.markedState mode option = .ok state ↔ option.item.Means mode state := by
  constructor
  · intro read
    unfold markedState at read
    split at read
    · rename_i bare
      cases read
      exact .unmarked bare
    · rename_i marker written
      simp only at read
      split at read
      · rename_i found
        cases read
        exact .marked written (CheckboxMode.mem_markers_iff.mpr found)
      · cases read
  · intro means
    cases means with
    | unmarked bare =>
      change option.marker = none at bare
      simp [markedState, bare]
    | marked written listed =>
      change option.marker = some _ at written
      simp [markedState, written, CheckboxMode.mem_markers_iff.mp listed]

theorem marker_of_isSelected {selected : Bool} {marker : String}
    (written : option.marker = some marker) (read : heading.isSelected option = .ok selected) :
    marker ∈ selectMarkers := by
  simp only [isSelected, written] at read
  split at read
  · rename_i blank
    simp [selectMarkers, CheckboxState.ofMarker?_eq_todo_iff.mp blank]
  · rename_i cross
    simpa [selectMarkers] using Or.inr (CheckboxState.ofMarker?_eq_done_iff.mp cross)
  · cases read

theorem markers_of_selectedIds {selected : List String}
    (read : heading.selectedIds marked = .ok selected) :
    ∀ option ∈ marked, ∀ marker, option.marker = some marker → marker ∈ selectMarkers := by
  simp only [selectedIds, bind_eq_ok] at read
  obtain ⟨crosses, reads, _⟩ := read
  intro option member marker written
  obtain ⟨selected, readOption⟩ := exists_of_mapM_eq_ok reads member
  exact marker_of_isSelected written readOption

/-- In checkboxes every item means the state that is read for it. -/
theorem means_of_states {states : List CheckboxState}
    (read : marked.mapM (heading.markedState mode) = .ok states) :
    ∀ option ∈ marked, option.item.Means mode (option.item.state mode) := by
  intro option member
  obtain ⟨state, readOption⟩ := exists_of_mapM_eq_ok read member
  rw [← (markedState_eq_ok readOption).1]
  exact markedState_eq_ok_iff.mp readOption

theorem means_of_readCheckboxes (read : heading.readCheckboxes = .ok entry) :
    ∃ marked, heading.markedOptions = .ok marked ∧
      entry.constraints.checkboxMode? = some heading.node.checkboxMode ∧
      ∀ option ∈ marked, option.item.Means heading.node.checkboxMode
        (option.item.state heading.node.checkboxMode) := by
  simp only [readCheckboxes, bind_eq_ok] at read
  obtain ⟨_, _, mode, readMode, _, _, _, _, _, _, marked, listed, states, stated, same⟩ := read
  have sameMode : mode.getD .multi = heading.node.checkboxMode := by
    rw [eq_of_word readMode, Node.checkboxMode]
  rw [sameMode] at stated same
  cases pure_eq_ok.mp same
  exact ⟨marked, listed, rfl, means_of_states stated⟩

/-- The reader of a chooser has made an option of every item and has known every marker. -/
theorem marked_of_entry (chooser : heading.kind.isChooser = true)
    (read : heading.entry settings = .ok entry) :
    ∃ marked, heading.markedOptions = .ok marked ∧
      entry.constraints.options? = some heading.node.listedOptions ∧
      ∀ option ∈ marked, ∀ marker, option.marker = some marker →
        marker ∈ heading.node.markers heading.kind := by
  cases same : heading.kind with
  | singleSelect =>
    rw [Heading.entry, same] at read
    obtain ⟨_, _, _, _, _, rfl⟩ := readSingleSelect_eq_ok read
    simp only [readSingleSelect, bind_eq_ok] at read
    obtain ⟨_, _, _, _, marked, listed, _, chosen, _⟩ := read
    exact ⟨marked, listed, rfl, markers_of_selectedIds chosen⟩
  | multiSelect =>
    rw [Heading.entry, same] at read
    obtain ⟨_, _, _, _, _, _, _, _, rfl⟩ := readMultiSelect_eq_ok read
    simp only [readMultiSelect, bind_eq_ok] at read
    obtain ⟨_, _, _, _, _, _, marked, listed, _, chosen, _⟩ := read
    exact ⟨marked, listed, rfl, markers_of_selectedIds chosen⟩
  | checkboxes =>
    rw [Heading.entry, same] at read
    obtain ⟨marked, listed, _, means⟩ := means_of_readCheckboxes read
    obtain ⟨_, _, _, _, _, _, _, _, _, _, _, _, rfl⟩ := readCheckboxes_eq_ok read
    refine ⟨marked, listed, rfl, ?_⟩
    intro option member marker written
    rw [Node.markers, if_pos rfl]
    exact (means option member).marker_mem written
  | string | number | stringList | url | urlList | date | year | table =>
    simp [same, FieldKind.isChooser] at chooser

theorem ids_of_markedOptions (listed : heading.markedOptions = .ok marked) :
    heading.node.optionItems.map (·.id) = (marked.map (·.option.id)).map some := by
  rw [optionItems_of_markedOptions listed, List.map_map, List.map_map]
  rfl

theorem not_miswrites_of_entry (chooser : heading.kind.isChooser = true)
    (read : heading.entry settings = .ok entry) : ¬ heading.node.Miswrites heading.kind := by
  obtain ⟨marked, listed, _, known⟩ := marked_of_entry chooser read
  obtain ⟨_, identifiers, distinct⟩ := markOptions_eq_ok listed
  intro miswritten
  cases miswritten with
  | nameless member bare =>
    obtain ⟨option, _, rfl⟩ := exists_marked_of_mem listed member
    cases bare
  | misnamed member named noIdentifier =>
    obtain ⟨option, present, rfl⟩ := exists_marked_of_mem listed member
    cases named
    rw [(identifiers option present).1] at noIdentifier
    cases noIdentifier
  | repeated twice =>
    apply twice
    rw [ids_of_markedOptions listed]
    exact distinct.map fun _ _ => Option.some.inj
  | mismarked member written unknown =>
    obtain ⟨option, present, rfl⟩ := exists_marked_of_mem listed member
    exact unknown (known option present _ written)

theorem ids_crossedItems (listed : heading.markedOptions = .ok marked) :
    heading.node.crossedItems.map (·.id) = heading.node.crossedIds.map some := by
  rw [Node.crossedItems_eq, crossedIds_of_markedOptions listed,
    optionItems_of_markedOptions listed, List.filter_map, List.map_map, List.map_map]
  rfl

theorem chooses_of_readCheckboxes (read : heading.readCheckboxes = .ok entry) :
    heading.node.Chooses (heading.node.answer .checkboxes) := by
  obtain ⟨marked, listed, _, means⟩ := means_of_readCheckboxes read
  have distinct := (markOptions_eq_ok listed).2.2
  intro id state
  rw [listedStates_of_markedOptions _ listed, Dict.get?_ofList (by rwa [List.map_map])]
  constructor
  · intro member
    obtain ⟨option, present, same⟩ := List.mem_map.mp member
    cases same
    exact ⟨option.item, item_mem_optionItems listed present, rfl, means option present⟩
  · rintro ⟨item, member, named, meant⟩
    obtain ⟨option, present, rfl⟩ := exists_marked_of_mem listed member
    cases named
    -- What an item means is what is read for it, so it means no other state.
    have read : heading.markedState heading.node.checkboxMode option = .ok state :=
      markedState_eq_ok_iff.mpr meant
    exact List.mem_map.mpr ⟨option, present, by rw [(markedState_eq_ok read).1]⟩

theorem chooses_of_entry (chooser : heading.kind.isChooser = true)
    (read : heading.entry settings = .ok entry)
    (filled : heading.node.isUnfilled heading.kind = false) :
    heading.node.Chooses (heading.node.answer heading.kind) := by
  obtain ⟨marked, listed, _, _⟩ := marked_of_entry chooser read
  have ids := ids_crossedItems listed
  cases same : heading.kind with
  | singleSelect =>
    rw [Node.isUnfilled, same] at filled
    cases chosen : heading.node.crossedIds with
    | nil => simp [Node.answer, chosen, FieldValue.isEmpty] at filled
    | cons first rest => simp [Node.Chooses, Node.answer, ids, chosen]
  | multiSelect => exact ids
  | checkboxes =>
    rw [Heading.entry, same] at read
    exact chooses_of_readCheckboxes read
  | string | number | stringList | url | urlList | date | year | table =>
    simp [same, FieldKind.isChooser] at chooser

end Heading

variable {settings : Settings} {node : Node} {kind : FieldKind}

theorem lists_of_readField {parsed : ParsedField} (chooser : kind.isChooser = true)
    (read : readField settings node kind = .ok parsed) : node.Lists kind parsed := by
  obtain ⟨heading, entry, headed, entered, taken, _, _, constraints, settled⟩ := readField_eq_ok read
  obtain ⟨rfl, rfl, _⟩ := Heading.ofNode_eq_ok headed
  obtain ⟨marked, listed, options, _⟩ := Heading.marked_of_entry chooser entered
  refine ⟨?_, ?_, ?_⟩
  · rw [FieldDefinition.options, constraints, options, Option.getD_some,
      Heading.listedOptions_of_markedOptions listed, Heading.optionItems_of_markedOptions listed,
      List.map_map, List.map_map]
    rfl
  · intro checkboxes
    rw [Heading.entry, checkboxes] at entered
    obtain ⟨_, _, mode, _⟩ := Heading.means_of_readCheckboxes entered
    rw [FieldDefinition.checkboxMode?, constraints, mode]
  · intro value answered
    rw [answered] at settled
    obtain ⟨rfl, _, filled⟩ := settled.eq_answer
    exact ⟨Node.kind_answer _ _, Heading.chooses_of_entry chooser entered filled⟩

/-- A chooser that can be read has its items for options and what their markers mean for an answer.
One with an item that is no option, or with a marker that stands for nothing, is refused. -/
theorem chooses_by_items (known : node.fieldKind? = some kind) (chooser : kind.isChooser = true) :
    (∀ parsed, parseField settings node = .ok (some parsed) → node.Lists kind parsed) ∧
      (node.Miswrites kind → ∃ error, parseField settings node = .error error) := by
  constructor
  · intro parsed read
    exact lists_of_readField chooser (readField_of_parseField known read)
  · intro miswritten
    apply exists_error_of_unreadable known
    intro parsed read
    obtain ⟨heading, entry, headed, entered, _⟩ := readField_eq_ok read
    obtain ⟨rfl, rfl, _⟩ := Heading.ofNode_eq_ok headed
    exact Heading.not_miswrites_of_entry chooser entered miswritten

/-- A choice that is skipped, beside an option with a marker that a select does not know. -/
def skippedChannel : Node where
  type := "tag"
  tag := some "single-select"
  attributes := .ofList [("id", .text "channel"), ("label", .text "Channel")]
  children := [⟨"item", none, .ofList [("id", .text "mail")],
      [⟨"text", none, .ofList [("content", .text "[y] Mail")], [], []⟩], [2]⟩,
    ⟨"fence", none, .ofList [("language", .text "value"), ("content", .text "%SKIP%\n")], [], [3]⟩]
  lines := [1]

theorem chooses_decisions :
    (∃ parsed, parseField .standard decisions = .ok (some parsed) ∧
        parsed.response.value?.isSome = true ∧ decisions.Lists .checkboxes parsed) ∧
      skippedChannel.sentinel? .singleSelect = some ⟨.skip, none⟩ ∧
      ∃ error, parseField .standard skippedChannel = .error error := by
  refine ⟨?_, by decide, ?_⟩
  · have readable : (parseField .standard decisions).toOption.join.any
        (·.response.value?.isSome) = true := by
      decide +kernel
    obtain ⟨parsed, read, answered⟩ := exists_ok_of_any readable
    exact ⟨parsed, read, answered, (chooses_by_items (by decide) rfl).1 parsed read⟩
  · have known : skippedChannel.fieldKind? = some .singleSelect := by decide
    have mail : ⟨some "mail", some "[y]", "Mail", some 2⟩ ∈ skippedChannel.optionItems := by decide
    exact (chooses_by_items known rfl).2 (.mismarked mail rfl (by decide))

end DocForm
