import DocForm.Proofs.Field.Chooser
import DocForm.Proofs.Field.OptionItems

/-! Where the errors of a field lie. Main statement: each of them names the field, and gives the
line of its tag, or else that of an item that is no proper option. -/

namespace DocForm

/-- Only an option can have the fault. -/
@[simp] def Fault.isOfOption : Fault → Bool
  | .missingOptionId _ | .duplicateOption _ | .invalidMarker .. => true
  | _ => false

/-- What may be wrong with an item as an option. -/
inductive Fault.IsAbout (item : OptionItem) : Fault → Prop where
  | nameless (absent : item.id = none) : IsAbout item (.missingOptionId item.label)
  | misnamed {id : String} (named : item.id = some id) (malformed : isIdentifier id = false) :
      IsAbout item (.invalidId id)
  | repeated {id : String} (named : item.id = some id) : IsAbout item (.duplicateOption id)
  | mismarked {marker setting : String} (marked : item.marker = some marker) :
      IsAbout item (.invalidMarker marker setting)

/-- The error lies at a place, and with no option there. -/
def LiesAt (place : Place) (error : ParseError) : Prop :=
  error.place = place ∧ error.fault.isOfOption = false

/-- The error names the field and lies at its tag, or at an item below the tag. An item without a
line has that of the tag. -/
inductive Node.Blames (node : Node) (id : String) : ParseError → Prop where
  | tag {fault : Fault} (general : fault.isOfOption = false) :
      Blames node id ⟨fault, ⟨some id, node.line?⟩⟩
  | item {fault : Fault} {visit : Visit} (listed : visit ∈ node.items)
      (about : fault.IsAbout visit.option) :
      Blames node id ⟨fault, ⟨some id, visit.node.line? <|> node.line?⟩⟩

namespace Heading

variable {α : Type} {heading : Heading} {settings : Settings} {name : String}

@[simp] theorem failsOnly_refuse_iff {fault : Fault} :
    FailsOnly (LiesAt heading.place) (heading.refuse fault : Except ParseError α) ↔
      fault.isOfOption = false := by
  simp [refuse, LiesAt]

@[simp] theorem failsOnly_read {accepts : AttributeValue → Option α} :
    FailsOnly (LiesAt heading.place) (heading.read name accepts) := by
  unfold read
  split
  · simp
  · split <;> simp

@[simp] theorem failsOnly_flag : FailsOnly (LiesAt heading.place) (heading.flag name) := by
  simp only [flag, failsOnly_bind_iff, failsOnly_read, failsOnly_pure, implies_true, and_self]

@[simp] theorem failsOnly_count : FailsOnly (LiesAt heading.place) (heading.count name) :=
  failsOnly_read

@[simp] theorem failsOnly_number : FailsOnly (LiesAt heading.place) (heading.number name) :=
  failsOnly_read

@[simp] theorem failsOnly_text : FailsOnly (LiesAt heading.place) (heading.text name) :=
  failsOnly_read

@[simp] theorem failsOnly_word [Vocabulary α] :
    FailsOnly (LiesAt heading.place) (heading.word name : Except ParseError (Option α)) :=
  failsOnly_read

@[simp] theorem failsOnly_dateBound : FailsOnly (LiesAt heading.place) (heading.dateBound name) :=
  failsOnly_read

@[simp] theorem failsOnly_yearBound : FailsOnly (LiesAt heading.place) (heading.yearBound name) :=
  failsOnly_read

@[simp] theorem failsOnly_checkBounds {above : α → α → Bool} {lowerName upperName : String}
    {lower upper : Option α} :
    FailsOnly (LiesAt heading.place) (heading.checkBounds above lowerName upperName lower upper) := by
  unfold checkBounds
  split
  · split <;> simp
  · simp

@[simp] theorem failsOnly_counts {lowerName upperName : String} :
    FailsOnly (LiesAt heading.place) (heading.counts lowerName upperName) := by
  simp [counts]

@[simp] theorem failsOnly_hints {strict : Bool} {valid : String → Bool} :
    FailsOnly (LiesAt heading.place) (heading.hints strict valid) := by
  simp only [hints, failsOnly_bind_iff, failsOnly_text, failsOnly_read, true_and]
  intro placeholder _ examples _
  split
  · simp
  · split
    · simp
    · split <;> simp

@[simp] theorem failsOnly_forbidHints : FailsOnly (LiesAt heading.place) heading.forbidHints := by
  unfold forbidHints
  split <;> simp

@[simp] theorem failsOnly_checkboxesRequired {mode : CheckboxMode} :
    FailsOnly (LiesAt heading.place) (heading.checkboxesRequired mode) := by
  simp only [checkboxesRequired, failsOnly_bind_iff, failsOnly_read, true_and]
  intro required _
  split
  · split <;> simp
  · simp

theorem failsOnly_readString : FailsOnly (LiesAt heading.place) (heading.readString settings) := by
  simp [readString]

theorem failsOnly_readNumber : FailsOnly (LiesAt heading.place) (heading.readNumber settings) := by
  simp [readNumber]

theorem failsOnly_readUrl : FailsOnly (LiesAt heading.place) (heading.readUrl settings) := by
  simp [readUrl]

theorem failsOnly_readDate : FailsOnly (LiesAt heading.place) (heading.readDate settings) := by
  simp [readDate]

theorem failsOnly_readYear : FailsOnly (LiesAt heading.place) (heading.readYear settings) := by
  simp [readYear]

theorem failsOnly_readList {urls : Bool} :
    FailsOnly (LiesAt heading.place) (heading.readList settings urls) := by
  simp [readList]

end Heading

section Table

variable {α : Type} {node : Node} {place : Place} {name : String} {ids lines : List String}
  {declared : Option (List TableColumn)}

@[simp] theorem failsOnly_refuseAt_iff {fault : Fault} :
    FailsOnly (LiesAt place) (refuseAt place fault : Except ParseError α) ↔
      fault.isOfOption = false := by
  simp [refuseAt, LiesAt]

@[simp] theorem failsOnly_readTexts {value : AttributeValue} :
    FailsOnly (LiesAt place) (readTexts place name value) := by
  unfold readTexts
  split
  · simp
  · refine failsOnly_mapM fun item _ => ?_
    split <;> simp
  · simp

@[simp] theorem failsOnly_readTextsOf : FailsOnly (LiesAt place) (readTextsOf node place name) := by
  unfold readTextsOf
  split <;> simp

@[simp] theorem failsOnly_readColumnType {text : String} :
    FailsOnly (LiesAt place) (readColumnType place text) := by
  unfold readColumnType
  split <;> simp

@[simp] theorem failsOnly_readColumnKind {value : AttributeValue} :
    FailsOnly (LiesAt place) (readColumnKind place value) := by
  unfold readColumnKind
  split
  · simp
  · split <;> simp
  · simp

@[simp] theorem failsOnly_readColumnKinds : FailsOnly (LiesAt place) (readColumnKinds node place) := by
  unfold readColumnKinds
  split
  · simp
  · simp
  · simp [failsOnly_mapM]
  · simp

@[simp] theorem failsOnly_checkEntries {entries : Option (List α)} :
    FailsOnly (LiesAt place) (checkEntries place name ids entries) := by
  unfold checkEntries
  split
  · simp
  · split <;> simp

@[simp] theorem failsOnly_checkIds {taken : List String} :
    FailsOnly (LiesAt place) (checkIds place taken ids) := by
  induction ids generalizing taken with
  | nil => simp [checkIds]
  | cons id rest ih =>
    unfold checkIds
    split
    · simp
    · split
      · simp
      · exact ih

@[simp] theorem failsOnly_explicitColumns : FailsOnly (LiesAt place) (explicitColumns node place) := by
  simp only [explicitColumns, failsOnly_bind_iff, failsOnly_readTextsOf, true_and]
  intro written _
  split
  · split <;> simp
  · simp
  · simp

@[simp] theorem failsOnly_inferColumns {position : Nat} {taken labels : List String} :
    FailsOnly (LiesAt place) (inferColumns place position taken labels) := by
  induction labels generalizing position taken with
  | nil => simp [inferColumns]
  | cons label rest ih =>
    simp only [inferColumns]
    split <;> simp [ih]

@[simp] theorem failsOnly_afterSeparator {width : Nat} :
    FailsOnly (LiesAt place) (afterSeparator place width lines) := by
  unfold afterSeparator
  split
  · simp
  · split <;> simp

@[simp] theorem failsOnly_inlineColumns : FailsOnly (LiesAt place) (inlineColumns place lines) := by
  unfold inlineColumns
  split
  · simp
  · simp only [failsOnly_bind_iff, failsOnly_inferColumns, true_and]
    intro columns _
    split
    · simp
    · split <;> simp

@[simp] theorem failsOnly_declaredColumns {columns : List TableColumn} {labelled : Bool} :
    FailsOnly (LiesAt place) (declaredColumns place columns labelled lines) := by
  unfold declaredColumns
  split <;> simp

@[simp] theorem failsOnly_parseTable {text : Option String} {labelled : Bool} :
    FailsOnly (LiesAt place) (parseTable text declared labelled place) := by
  unfold parseTable
  split <;> simp

theorem Heading.failsOnly_readTable {heading : Heading} :
    FailsOnly (LiesAt heading.place) heading.readTable := by
  simp only [readTable, failsOnly_bind_iff, failsOnly_flag, failsOnly_counts,
    failsOnly_explicitColumns, failsOnly_text, true_and]
  intro _ _ _ _ _ _ state _
  split <;> simp

end Table

namespace Entry

variable {entry : Entry} {state : Option String}

theorem failsOnly_settleSentinel {sentinel : Sentinel} :
    FailsOnly (fun fault => fault.isOfOption = false) (entry.settleSentinel state sentinel) := by
  simp only [settleSentinel]
  split
  · simp
  · split <;> simp

theorem failsOnly_settleValue :
    FailsOnly (fun fault => fault.isOfOption = false) (entry.settleValue state) := by
  unfold settleValue
  split
  · simp
  · simp
  · split <;> simp
  · split
    · simp
    · split <;> simp
  · split <;> simp
  · simp

/-- A response that cannot be settled is no fault of an option. -/
theorem failsOnly_settle :
    FailsOnly (fun fault => fault.isOfOption = false) (entry.settle state) := by
  unfold settle
  split
  · exact failsOnly_settleSentinel
  · exact failsOnly_settleValue

end Entry

namespace Heading

variable {heading : Heading} {settings : Settings} {entry : Entry}

theorem failsOnly_finish : FailsOnly (LiesAt heading.place) (heading.finish settings entry) := by
  simp only [finish, failsOnly_bind_iff, failsOnly_text, true_and]
  refine ⟨by simp [definition], fun _ _ state _ => ?_⟩
  split
  · rename_i failed
    exact failsOnly_refuse_iff.mpr (Entry.failsOnly_settle _ failed)
  · exact failsOnly_ok _

end Heading

theorem Node.exists_visit_of_mem_optionItems {node : Node} {item : OptionItem}
    (listed : item ∈ node.optionItems) : ∃ visit ∈ node.items, visit.option = item := by
  rw [optionItems_eq] at listed
  obtain ⟨visit, outer, same⟩ := List.mem_map.mp listed
  exact ⟨visit, List.mem_of_mem_filter outer, same⟩

namespace Heading

variable {α : Type} {heading : Heading} {settings : Settings} {item : OptionItem}
  {items : List OptionItem} {taken : List String} {option : MarkedOption}
  {marked : List MarkedOption}

/-- The error names the field, and lies at its tag or at an item below the tag. -/
def Blames (heading : Heading) (error : ParseError) : Prop := heading.node.Blames heading.id error

theorem blames_of_liesAt {error : ParseError} (lies : LiesAt heading.place error) :
    heading.Blames error := by
  obtain ⟨fault, place⟩ := error
  obtain ⟨rfl, general⟩ := lies
  exact .tag general

theorem failsOnly_blames {outcome : Except ParseError α}
    (fails : FailsOnly (LiesAt heading.place) outcome) : FailsOnly heading.Blames outcome :=
  fails.mono fun _ => blames_of_liesAt

theorem blames_item {fault : Fault} (listed : item ∈ heading.node.optionItems)
    (about : fault.IsAbout item) : heading.Blames ⟨fault, heading.optionPlace item.line⟩ := by
  obtain ⟨visit, member, rfl⟩ := Node.exists_visit_of_mem_optionItems listed
  exact .item member about

theorem failsOnly_markedOption (listed : item ∈ heading.node.optionItems) :
    FailsOnly heading.Blames (heading.markedOption taken item) := by
  unfold markedOption
  cases named : item.id with
  | none => exact failsOnly_error_iff.mpr (blames_item listed (.nameless named))
  | some id =>
    dsimp only
    split
    · rename_i malformed
      exact failsOnly_error_iff.mpr (blames_item listed (.misnamed named (by simpa using malformed)))
    · split
      · exact failsOnly_error_iff.mpr (blames_item listed (.repeated named))
      · exact failsOnly_ok _

theorem failsOnly_markOptions (listed : ∀ item ∈ items, item ∈ heading.node.optionItems) :
    FailsOnly heading.Blames (heading.markOptions taken items) := by
  induction items generalizing taken with
  | nil => exact failsOnly_ok _
  | cons item rest ih =>
    obtain ⟨first, others⟩ := List.forall_mem_cons.mp listed
    simp [markOptions, failsOnly_markedOption first, ih others]

theorem failsOnly_markedOptions : FailsOnly heading.Blames heading.markedOptions :=
  failsOnly_markOptions fun _ listed => listed

theorem failsOnly_isSelected (listed : option.item ∈ heading.node.optionItems) :
    FailsOnly heading.Blames (heading.isSelected option) := by
  unfold isSelected
  split
  · exact failsOnly_ok _
  · rename_i marker written
    split
    · exact failsOnly_ok _
    · exact failsOnly_ok _
    · exact failsOnly_error_iff.mpr (blames_item listed (.mismarked written))

theorem failsOnly_selectedIds (read : heading.markedOptions = .ok marked) :
    FailsOnly heading.Blames (heading.selectedIds marked) := by
  have crosses : FailsOnly heading.Blames (marked.mapM heading.isSelected) :=
    failsOnly_mapM fun _ member => failsOnly_isSelected (item_mem_optionItems read member)
  simpa [selectedIds] using crosses

theorem failsOnly_markedState {mode : CheckboxMode}
    (listed : option.item ∈ heading.node.optionItems) :
    FailsOnly heading.Blames (heading.markedState mode option) := by
  unfold markedState
  split
  · exact failsOnly_ok _
  · rename_i marker written
    dsimp only
    split
    · exact failsOnly_ok _
    · exact failsOnly_error_iff.mpr (blames_item listed (.mismarked written))

theorem failsOnly_readSingleSelect : FailsOnly heading.Blames heading.readSingleSelect := by
  simp only [readSingleSelect, failsOnly_bind_iff, failsOnly_blames failsOnly_forbidHints,
    failsOnly_blames failsOnly_flag, failsOnly_markedOptions, failsOnly_pure, true_and]
  intro _ _ _ _ marked read
  exact ⟨failsOnly_selectedIds read, fun _ _ => trivial⟩

theorem failsOnly_readMultiSelect : FailsOnly heading.Blames heading.readMultiSelect := by
  simp only [readMultiSelect, failsOnly_bind_iff, failsOnly_blames failsOnly_forbidHints,
    failsOnly_blames failsOnly_flag, failsOnly_blames failsOnly_counts, failsOnly_markedOptions,
    failsOnly_pure, true_and]
  intro _ _ _ _ _ _ marked read
  exact ⟨failsOnly_selectedIds read, fun _ _ => trivial⟩

theorem failsOnly_readCheckboxes : FailsOnly heading.Blames heading.readCheckboxes := by
  simp only [readCheckboxes, failsOnly_bind_iff, failsOnly_blames failsOnly_forbidHints,
    failsOnly_blames failsOnly_word, failsOnly_blames failsOnly_count,
    failsOnly_blames failsOnly_checkboxesRequired, failsOnly_markedOptions, failsOnly_pure, true_and]
  intro _ _ mode _ _ _ _ _ _ _ marked read
  exact ⟨failsOnly_mapM fun _ member => failsOnly_markedState (item_mem_optionItems read member),
    fun _ _ => trivial⟩

theorem failsOnly_entry : FailsOnly heading.Blames (heading.entry settings) := by
  unfold entry
  cases heading.kind with
  | string => exact failsOnly_blames failsOnly_readString
  | number => exact failsOnly_blames failsOnly_readNumber
  | stringList | urlList => exact failsOnly_blames failsOnly_readList
  | singleSelect => exact failsOnly_readSingleSelect
  | multiSelect => exact failsOnly_readMultiSelect
  | checkboxes => exact failsOnly_readCheckboxes
  | url => exact failsOnly_blames failsOnly_readUrl
  | date => exact failsOnly_blames failsOnly_readDate
  | year => exact failsOnly_blames failsOnly_readYear
  | table => exact failsOnly_blames failsOnly_readTable

end Heading

variable {settings : Settings} {node : Node} {kind : FieldKind} {id : String} {error : ParseError}

/-- A tag with an id may still lack a label. -/
theorem failsOnly_ofNode (named : node.text? "id" = some id) (identifier : isIdentifier id = true) :
    FailsOnly (node.Blames id) (Heading.ofNode node kind) := by
  simp only [Heading.ofNode, named, identifier, Bool.not_true, Bool.false_eq_true, if_false]
  split
  · exact failsOnly_error_iff.mpr (.tag rfl)
  · exact failsOnly_ok _

theorem failsOnly_readField (named : node.text? "id" = some id)
    (identifier : isIdentifier id = true) :
    FailsOnly (node.Blames id) (readField settings node kind) := by
  refine failsOnly_bind_iff.mpr ⟨failsOnly_ofNode named identifier, fun heading headed => ?_⟩
  obtain ⟨rfl, _, sameId, _⟩ := Heading.ofNode_eq_ok headed
  obtain rfl : id = heading.id := Option.some_inj.mp (named.symm.trans sameId)
  exact failsOnly_bind_iff.mpr ⟨Heading.failsOnly_entry, fun _ _ =>
    Heading.failsOnly_blames Heading.failsOnly_finish⟩

/-- An error in reading a field whose id is an identifier names that field. It gives the line of
the field's tag; only what is wrong with an item gives the line of the item, if it has one. -/
theorem blames_of_parseField (named : node.text? "id" = some id)
    (identifier : isIdentifier id = true) (failed : parseField settings node = .error error) :
    node.Blames id error := by
  unfold parseField at failed
  split at failed
  · cases failed
  · rename_i kind _
    rcases bind_eq_error.mp failed with unread | ⟨_, _, unread⟩
    · exact failsOnly_readField named identifier error unread
    · cases unread

/-- A pizza with two toppings of one id. -/
def pizza : Node where
  type := "tag"
  tag := some "multi-select"
  attributes := .ofList [("id", .text "pizza"), ("label", .text "Pizza")]
  children := [⟨"list", none, ∅, [
    ⟨"item", none, .ofList [("id", .text "ham")],
      [⟨"text", none, .ofList [("content", .text "[ ] Ham")], [], []⟩], [2]⟩,
    ⟨"item", none, .ofList [("id", .text "ham")],
      [⟨"text", none, .ofList [("content", .text "[x] Parma ham")], [], []⟩], [3]⟩], []⟩]
  lines := [1]

/-- The second ham is to blame, on its own line. -/
theorem blames_pizza :
    let error : ParseError := ⟨.duplicateOption "ham", ⟨some "pizza", some 3⟩⟩
    parseField .standard pizza = .error error ∧ pizza.Blames "pizza" error := by
  intro error
  have refused : (match parseField .standard pizza with
      | .error error => some error
      | .ok _ => none) = some error := by
    decide +kernel
  have failed : parseField .standard pizza = .error error := by
    cases outcome : parseField .standard pizza with
    | ok found => simp [outcome] at refused
    | error other => simpa [outcome] using refused
  exact ⟨failed, blames_of_parseField (by decide) (by decide) failed⟩

end DocForm
