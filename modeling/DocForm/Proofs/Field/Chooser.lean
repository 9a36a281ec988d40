import DocForm.Proofs.Field.Reading

/-! What the readers of choosers have found: the options are the listed items, each with an id
of its own, and the choice follows the markers. -/

namespace DocForm

/-- The item that a marked option has been read from. -/
def MarkedOption.item (marked : MarkedOption) : OptionItem :=
  ⟨some marked.option.id, marked.marker, marked.option.label, marked.line⟩

namespace OptionItem

/-- The item is marked with a cross. -/
def isCrossed (item : OptionItem) : Bool :=
  item.marker.bind CheckboxState.ofMarker? = some .done

/-- The state of an item: the one that its marker stands for, where a blank or missing marker
leaves the option untouched. -/
def state (mode : CheckboxMode) (item : OptionItem) : CheckboxState :=
  match item.marker.bind CheckboxState.ofMarker? with
  | none | some .todo => .initial mode
  | some state => state

end OptionItem

namespace Node

/-- The options that the items of a node list. -/
def listedOptions (node : Node) : List FieldOption :=
  node.optionItems.filterMap fun item => item.id.map fun id => ⟨id, item.label⟩

/-- The ids of the items with a cross. -/
def crossedIds (node : Node) : List String :=
  (node.optionItems.filter OptionItem.isCrossed).filterMap (·.id)

/-- The state of each item under its id. -/
def listedStates (mode : CheckboxMode) (node : Node) : Dict CheckboxState :=
  .ofList (node.optionItems.filterMap fun item => item.id.map fun id => (id, item.state mode))

end Node

namespace Heading

variable {heading : Heading} {entry : Entry} {marked : List MarkedOption}

theorem markedOption_eq_ok {taken : List String} {item : OptionItem} {option : MarkedOption}
    (read : heading.markedOption taken item = .ok option) :
    option.item = item ∧ isIdentifier option.option.id = true ∧ option.option.id ∉ taken := by
  unfold markedOption at read
  cases named : item.id with
  | none => simp [named] at read
  | some id =>
    simp only [named, ite_eq_ok, reduceCtorEq, and_false, false_or, Except.ok.injEq] at read
    obtain ⟨identifier, fresh, rfl⟩ := read
    cases item
    cases named
    exact ⟨rfl, by simpa using identifier, by simpa using fresh⟩

/-- Every item becomes an option, and no two of them have one id. -/
theorem markOptions_eq_ok {taken : List String} {items : List OptionItem}
    (read : heading.markOptions taken items = .ok marked) :
    items = marked.map MarkedOption.item ∧
      (∀ option ∈ marked, isIdentifier option.option.id = true ∧ option.option.id ∉ taken) ∧
      (marked.map (·.option.id)).Nodup := by
  induction items generalizing taken marked with
  | nil =>
    cases read
    exact ⟨rfl, by simp, List.nodup_nil⟩
  | cons item rest ih =>
    simp only [markOptions, bind_eq_ok, pure_eq_ok] at read
    obtain ⟨first, readFirst, others, readOthers, rfl⟩ := read
    obtain ⟨same, identifier, fresh⟩ := markedOption_eq_ok readFirst
    obtain ⟨items, later, distinct⟩ := ih readOthers
    refine ⟨by simp [same, items], ?_, ?_⟩
    · intro option member
      rcases List.mem_cons.mp member with rfl | member
      · exact ⟨identifier, fresh⟩
      · exact ⟨(later option member).1,
          fun known => (later option member).2 (List.mem_cons_of_mem _ known)⟩
    · refine List.nodup_cons.mpr ⟨fun repeated => ?_, distinct⟩
      obtain ⟨option, member, sameId⟩ := List.mem_map.mp repeated
      exact (later option member).2 (by simp [sameId])

theorem optionItems_of_markedOptions (read : heading.markedOptions = .ok marked) :
    heading.node.optionItems = marked.map MarkedOption.item :=
  (markOptions_eq_ok read).1

/-- A marked option is one of the items. -/
theorem item_mem_optionItems (read : heading.markedOptions = .ok marked) {option : MarkedOption}
    (member : option ∈ marked) : option.item ∈ heading.node.optionItems := by
  rw [optionItems_of_markedOptions read]
  exact List.mem_map_of_mem member

theorem exists_marked_of_mem (read : heading.markedOptions = .ok marked) {item : OptionItem}
    (member : item ∈ heading.node.optionItems) : ∃ option ∈ marked, option.item = item := by
  rw [optionItems_of_markedOptions read] at member
  exact List.mem_map.mp member

theorem listedOptions_of_markedOptions (read : heading.markedOptions = .ok marked) :
    heading.node.listedOptions = marked.map (·.option) := by
  rw [Node.listedOptions, optionItems_of_markedOptions read, List.filterMap_map]
  exact congrFun (List.filterMap_eq_map (f := MarkedOption.option)) marked

theorem crossedIds_of_markedOptions (read : heading.markedOptions = .ok marked) :
    heading.node.crossedIds = (marked.filter (·.item.isCrossed)).map (·.option.id) := by
  rw [Node.crossedIds, optionItems_of_markedOptions read, List.filter_map, List.filterMap_map]
  exact congrFun (List.filterMap_eq_map (f := fun option : MarkedOption => option.option.id)) _

theorem listedStates_of_markedOptions (mode : CheckboxMode)
    (read : heading.markedOptions = .ok marked) :
    heading.node.listedStates mode =
      .ofList (marked.map fun option => (option.option.id, option.item.state mode)) := by
  rw [Node.listedStates, optionItems_of_markedOptions read, List.filterMap_map]
  exact congrArg Dict.ofList (congrFun (List.filterMap_eq_map
    (f := fun option : MarkedOption => (option.option.id, option.item.state mode))) marked)

/-- A select is read when every marker is blank or a cross. -/
theorem isSelected_eq_ok {option : MarkedOption} {selected : Bool}
    (read : heading.isSelected option = .ok selected) : selected = option.item.isCrossed := by
  unfold isSelected at read
  split at read
  · rename_i unmarked
    cases read
    simp [OptionItem.isCrossed, MarkedOption.item, unmarked]
  · rename_i marker written
    split at read
    · rename_i blank
      cases read
      simp [OptionItem.isCrossed, MarkedOption.item, written, blank]
    · rename_i cross
      cases read
      simp [OptionItem.isCrossed, MarkedOption.item, written, cross]
    · cases read

theorem selectedIds_eq_ok {selected : List String}
    (read : heading.selectedIds marked = .ok selected) :
    selected = (marked.filter (·.item.isCrossed)).map (·.option.id) := by
  obtain ⟨crosses, reads, rfl⟩ : ∃ crosses, marked.mapM heading.isSelected = .ok crosses ∧
      ((marked.zip crosses).filter (·.2)).map (fun chosen => chosen.1.option.id) = selected := by
    simpa only [selectedIds, bind_eq_ok, pure_eq_ok] using read
  have related := mapM_eq_ok.mp reads
  clear reads read
  induction related with
  | nil => rfl
  | cons read _ ih =>
    rw [List.zip_cons_cons, List.filter_cons, List.filter_cons, isSelected_eq_ok read]
    split
    · rw [List.map_cons, List.map_cons, ih]
    · exact ih

/-- A checkbox is read when its marker stands for a state of the mode. -/
theorem markedState_eq_ok {mode : CheckboxMode} {option : MarkedOption} {state : CheckboxState}
    (read : heading.markedState mode option = .ok state) :
    state = option.item.state mode ∧ state.allowedIn mode = true := by
  unfold markedState at read
  split at read
  · rename_i unmarked
    cases read
    exact ⟨by simp [OptionItem.state, MarkedOption.item, unmarked],
      CheckboxState.initial_allowed mode⟩
  · rename_i marker written
    simp only at read
    split at read
    · rename_i kept found
      cases read
      obtain ⟨known, allowed⟩ := Option.filter_eq_some_iff.mp found
      obtain ⟨meant, stands, same⟩ := Option.map_eq_some_iff.mp known
      refine ⟨?_, allowed⟩
      rw [← same]
      cases meant <;> simp [OptionItem.state, MarkedOption.item, written, stands]
    · cases read

theorem states_eq_ok {mode : CheckboxMode} {states : List CheckboxState}
    (read : marked.mapM (heading.markedState mode) = .ok states) :
    states = marked.map (·.item.state mode) ∧ ∀ state ∈ states, state.allowedIn mode = true := by
  have related := mapM_eq_ok.mp read
  clear read
  induction related with
  | nil => simp
  | cons read _ ih =>
    obtain ⟨same, allowed⟩ := markedState_eq_ok read
    obtain ⟨others, allAllowed⟩ := ih
    refine ⟨by rw [List.map_cons, ← same, ← others], ?_⟩
    intro state member
    rcases List.mem_cons.mp member with rfl | later
    · exact allowed
    · exact allAllowed state later

theorem readSingleSelect_eq_ok (read : heading.readSingleSelect = .ok entry) :
    ∃ required marked, heading.forbidHints = .ok () ∧
      heading.flag "required" = .ok required ∧ heading.markedOptions = .ok marked ∧
      let number := heading.node.crossedIds.length
      entry = ⟨required, .singleSelect heading.node.listedOptions, heading.node.fenceValue?,
        .singleSelect heading.node.crossedIds.head?,
        if 1 < number then [s!"{number} options are selected, keeping the first"] else []⟩ := by
  simp only [readSingleSelect, bind_eq_ok] at read
  obtain ⟨_, forbidden, required, flagged, marked, listed, selected, chosen, same⟩ := read
  refine ⟨required, marked, forbidden, flagged, listed, ?_⟩
  rw [listedOptions_of_markedOptions listed, crossedIds_of_markedOptions listed,
    ← selectedIds_eq_ok chosen]
  exact (pure_eq_ok.mp same).symm

theorem readMultiSelect_eq_ok (read : heading.readMultiSelect = .ok entry) :
    ∃ required minSelections maxSelections marked, heading.forbidHints = .ok () ∧
      heading.flag "required" = .ok required ∧
      heading.counts "minSelections" "maxSelections" = .ok (minSelections, maxSelections) ∧
      heading.markedOptions = .ok marked ∧
      entry = ⟨required, .multiSelect ⟨heading.node.listedOptions, minSelections, maxSelections⟩,
        heading.node.fenceValue?, .multiSelect heading.node.crossedIds, []⟩ := by
  simp only [readMultiSelect, bind_eq_ok] at read
  obtain ⟨_, forbidden, required, flagged, ⟨low, high⟩, counted, marked, listed, selected, chosen,
    same⟩ := read
  refine ⟨required, low, high, marked, forbidden, flagged, counted, listed, ?_⟩
  rw [listedOptions_of_markedOptions listed, crossedIds_of_markedOptions listed,
    ← selectedIds_eq_ok chosen]
  exact (pure_eq_ok.mp same).symm

theorem readCheckboxes_eq_ok (read : heading.readCheckboxes = .ok entry) :
    ∃ mode approval minDone required marked, heading.forbidHints = .ok () ∧
      heading.word "checkboxMode" = .ok mode ∧ heading.word "approvalMode" = .ok approval ∧
      heading.count "minDone" = .ok minDone ∧
      heading.checkboxesRequired (mode.getD .multi) = .ok required ∧
      heading.markedOptions = .ok marked ∧
      (∀ option ∈ marked,
        (option.item.state (mode.getD .multi)).allowedIn (mode.getD .multi) = true) ∧
      entry = ⟨required,
        .checkboxes ⟨heading.node.listedOptions, mode.getD .multi, approval.getD .none, minDone⟩,
        heading.node.fenceValue?, .checkboxes (heading.node.listedStates (mode.getD .multi)), []⟩ := by
  simp only [readCheckboxes, bind_eq_ok] at read
  obtain ⟨_, forbidden, mode, readMode, approval, readApproval, minDone, counted, required, needed,
    marked, listed, states, stated, same⟩ := read
  obtain ⟨same', allowed⟩ := states_eq_ok stated
  refine ⟨mode, approval, minDone, required, marked, forbidden, readMode, readApproval, counted,
    needed, listed, ?_, ?_⟩
  · intro option member
    exact allowed _ (by rw [same']; exact List.mem_map_of_mem member)
  · rw [listedOptions_of_markedOptions listed, listedStates_of_markedOptions _ listed,
      ← pure_eq_ok.mp same, same', List.map_map, List.zip_map']
    rfl

end Heading

end DocForm
