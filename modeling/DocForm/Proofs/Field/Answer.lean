import DocForm.Proofs.Field.Chooser
import DocForm.Proofs.Table.Reading
import DocForm.Proofs.Text.Lines

/-! What a tag holds for a field of each kind, told from the tag alone. Main statement: the reader
of a kind takes exactly this from the tag. -/

namespace DocForm

namespace Node

/-- The text in which a field writes its answer, or a sentinel in its place. -/
def written? (kind : FieldKind) (node : Node) : Option String :=
  if kind = .table then node.tableText? else node.fenceValue?

/-- The sentinel that a field holds. -/
def sentinel? (kind : FieldKind) (node : Node) : Option Sentinel :=
  (node.written? kind).bind Sentinel.parse?

/-- The mode that a tag gives its checkboxes. -/
def checkboxMode (node : Node) : CheckboxMode :=
  ((node.text? "checkboxMode").bind Vocabulary.read?).getD .multi

/-- A field is required when it says so. Checkboxes in explicit mode always are. -/
def isRequired (kind : FieldKind) (node : Node) : Bool :=
  (kind = .checkboxes && node.checkboxMode = .explicit) || (node.bool? "required").getD false

/-- The text of the value fence, unless it is blank. -/
def typedText? (node : Node) : Option String := node.fenceValue?.bind Text.trim?

/-- The rows that a tag writes below its declared or inline columns. -/
def tableRows (node : Node) : List TableRow :=
  let place : Place := ⟨node.text? "id", node.line?⟩
  let table := do
    let declared ← explicitColumns node place
    parseTable node.tableText? declared (node.hasAttribute "columnLabels") place
  (table.toOption.map (·.rows)).getD []

/-- The value of a field as its kind reads it. -/
def answer (node : Node) : FieldKind → FieldValue
  | .string => .string node.typedText?
  | .number => .number (node.typedText?.bind parseNumber?)
  | .stringList => .stringList (listItems (node.fenceValue?.getD ""))
  | .singleSelect => .singleSelect node.crossedIds.head?
  | .multiSelect => .multiSelect node.crossedIds
  | .checkboxes => .checkboxes (node.listedStates node.checkboxMode)
  | .url => .url node.typedText?
  | .urlList => .urlList (listItems (node.fenceValue?.getD ""))
  | .date => .date node.typedText?
  | .year => .year (node.typedText?.bind parseYear?)
  | .table => .table node.tableRows

@[simp] theorem kind_answer (node : Node) (kind : FieldKind) : (node.answer kind).kind = kind := by
  cases kind <;> rfl

end Node

/-- The entry is what the tag holds for a field of the kind. A value beside a sentinel is left
open; nothing reads it. -/
structure Entry.TakenFrom (node : Node) (kind : FieldKind) (entry : Entry) : Prop where
  sameKind : entry.constraints.kind = kind
  content : entry.content = node.written? kind
  required : entry.required = node.isRequired kind
  mode : ∀ mode, entry.constraints.checkboxMode? = some mode → mode = node.checkboxMode
  value : node.sentinel? kind = none → entry.value = node.answer kind

namespace Heading

variable {heading : Heading} {settings : Settings} {entry : Entry}

/-- A table that is read without being parsed has its declared columns and no rows. -/
theorem readTable_eq_ok (read : heading.readTable = .ok entry) :
    ∃ required minRows maxRows declared state, ∃ table : ParsedTable,
      heading.flag "required" = .ok required ∧
      heading.counts "minRows" "maxRows" = .ok (minRows, maxRows) ∧
      explicitColumns heading.node heading.place = .ok declared ∧
      heading.text "state" = .ok state ∧
      ((isBypassed heading.node.tableText? state = true ∧ table = ⟨declared.getD [], []⟩) ∨
        (isBypassed heading.node.tableText? state = false ∧
          parseTable heading.node.tableText? declared
            (heading.node.hasAttribute "columnLabels") heading.place = .ok table)) ∧
      entry = ⟨required, .table ⟨table.columns, minRows, maxRows⟩, heading.node.tableText?,
        .table table.rows, []⟩ := by
  simp only [readTable, bind_eq_ok, ite_eq_ok] at read
  obtain ⟨required, flagged, ⟨minRows, maxRows⟩, counted, declared, explicit, state, stated, read⟩ :=
    read
  rcases read with ⟨bypassed, table, empty, same⟩ | ⟨parsed, table, found, same⟩
  · exact ⟨required, minRows, maxRows, declared, state, table, flagged, counted, explicit, stated,
      .inl ⟨bypassed, (pure_eq_ok.mp empty).symm⟩, (pure_eq_ok.mp same).symm⟩
  · exact ⟨required, minRows, maxRows, declared, state, table, flagged, counted, explicit, stated,
      .inr ⟨by simpa using parsed, found⟩, (pure_eq_ok.mp same).symm⟩

/-- Blank text makes no rows. -/
theorem rows_of_parseTable_blank {text : Option String} {declared : Option (List TableColumn)}
    {labelled : Bool} {place : Place} {table : ParsedTable} (blank : text.bind Text.trim? = none)
    (read : parseTable text declared labelled place = .ok table) : table.rows = [] := by
  have nothing : Text.lines (text.getD "") = [] := by
    apply Text.lines_eq_nil_of_trim?
    cases text with
    | none => decide
    | some text => simpa using blank
  cases declared with
  | none =>
    simp only [parseTable, nothing, bind_eq_ok] at read
    obtain ⟨_, found, _⟩ := read
    exact absurd found refuseAt_ne_ok
  | some declared =>
    rw [parseTable, nothing] at read
    cases read
    rfl

/-- Passing over the parsing of a table without a sentinel changes none of its rows. -/
theorem tableRows_of_readTable (named : heading.node.text? "id" = some heading.id)
    (bare : heading.node.tableText?.bind Sentinel.parse? = none)
    (read : heading.readTable = .ok entry) : entry.value = .table heading.node.tableRows := by
  obtain ⟨required, minRows, maxRows, declared, state, table, _, _, explicit, _, found, rfl⟩ :=
    readTable_eq_ok read
  have placed : heading.place = ⟨heading.node.text? "id", heading.node.line?⟩ := by
    rw [named]
    rfl
  rw [placed] at explicit found
  simp only [Node.tableRows, explicit, bind, Except.bind]
  refine congrArg FieldValue.table ?_
  rcases found with ⟨bypassed, rfl⟩ | ⟨_, parsed⟩
  · have blank : heading.node.tableText?.bind Text.trim? = none := by
      simp only [isBypassed, bare, Option.isSome_none, Bool.false_or, Bool.and_eq_true,
        Option.isNone_iff_eq_none] at bypassed
      exact bypassed.1
    cases parsed : parseTable heading.node.tableText? declared
        (heading.node.hasAttribute "columnLabels")
        ⟨heading.node.text? "id", heading.node.line?⟩ with
    | error failure => rfl
    | ok table => exact (rows_of_parseTable_blank blank parsed).symm
  · rw [parsed]
    rfl

/-- The readers of kinds other than checkboxes and tables agree on all but the value. -/
theorem takenFrom_of_flag {required : Bool} {constraints : Constraints} {remarks : List String}
    {kind : FieldKind} (notCheckboxes : kind ≠ .checkboxes) (sameKind : constraints.kind = kind)
    (flagged : heading.flag "required" = .ok required)
    (written : heading.node.written? kind = heading.node.fenceValue?) :
    Entry.TakenFrom heading.node kind ⟨required, constraints, heading.node.fenceValue?,
      heading.node.answer kind, remarks⟩ where
  sameKind := sameKind
  content := written.symm
  required := by simp [Node.isRequired, notCheckboxes, eq_of_flag flagged]
  mode mode found := by
    subst sameKind
    cases constraints <;> simp_all [Constraints.checkboxMode?, Constraints.kind]
  value _ := rfl

theorem takenFrom_of_readCheckboxes (read : heading.readCheckboxes = .ok entry) :
    Entry.TakenFrom heading.node .checkboxes entry := by
  obtain ⟨mode, approval, minDone, required, marked, _, readMode, _, _, needed, _, _, rfl⟩ :=
    readCheckboxes_eq_ok read
  have sameMode : mode.getD .multi = heading.node.checkboxMode := by
    rw [eq_of_word readMode, Node.checkboxMode]
  rw [sameMode] at needed ⊢
  exact {
    sameKind := rfl
    content := rfl
    required := by simp [Node.isRequired, eq_of_checkboxesRequired needed]
    mode := by simp [Constraints.checkboxMode?]
    value := fun _ => rfl }

theorem takenFrom_of_readTable (named : heading.node.text? "id" = some heading.id)
    (read : heading.readTable = .ok entry) : Entry.TakenFrom heading.node .table entry := by
  have rows := fun bare => tableRows_of_readTable named bare read
  obtain ⟨required, minRows, maxRows, declared, state, table, flagged, _, _, _, _, rfl⟩ :=
    readTable_eq_ok read
  exact {
    sameKind := rfl
    content := rfl
    required := by simp [Node.isRequired, eq_of_flag flagged]
    mode := by simp [Constraints.checkboxMode?]
    value := rows }

/-- The reader of each kind takes what the tag holds for a field of that kind. -/
theorem takenFrom_of_entry (named : heading.node.text? "id" = some heading.id)
    (read : heading.entry settings = .ok entry) :
    Entry.TakenFrom heading.node heading.kind entry := by
  cases same : heading.kind with
  | string =>
    rw [Heading.entry, same] at read
    obtain ⟨required, _, _, _, _, _, flagged, _, _, _, rfl⟩ := readString_eq_ok read
    exact takenFrom_of_flag (by decide) rfl flagged rfl
  | number =>
    rw [Heading.entry, same] at read
    obtain ⟨required, _, _, _, _, _, flagged, _, _, _, _, _, rfl⟩ := readNumber_eq_ok read
    exact takenFrom_of_flag (by decide) rfl flagged rfl
  | stringList =>
    rw [Heading.entry, same] at read
    obtain ⟨required, _, _, _, _, _, _, _, flagged, _, _, _, _, rfl⟩ := readList_eq_ok read
    exact takenFrom_of_flag (by decide) rfl flagged rfl
  | singleSelect =>
    rw [Heading.entry, same] at read
    obtain ⟨required, _, _, flagged, _, rfl⟩ := readSingleSelect_eq_ok read
    exact takenFrom_of_flag (by decide) rfl flagged rfl
  | multiSelect =>
    rw [Heading.entry, same] at read
    obtain ⟨required, _, _, _, _, flagged, _, _, rfl⟩ := readMultiSelect_eq_ok read
    exact takenFrom_of_flag (by decide) rfl flagged rfl
  | checkboxes =>
    rw [Heading.entry, same] at read
    exact takenFrom_of_readCheckboxes read
  | url =>
    rw [Heading.entry, same] at read
    obtain ⟨required, _, _, flagged, _, rfl⟩ := readUrl_eq_ok read
    exact takenFrom_of_flag (by decide) rfl flagged rfl
  | urlList =>
    rw [Heading.entry, same] at read
    obtain ⟨required, _, _, _, _, _, _, _, flagged, _, _, _, _, rfl⟩ := readList_eq_ok read
    exact takenFrom_of_flag (by decide) rfl flagged rfl
  | date =>
    rw [Heading.entry, same] at read
    obtain ⟨required, _, _, _, _, flagged, _, _, _, _, rfl⟩ := readDate_eq_ok read
    exact takenFrom_of_flag (by decide) rfl flagged rfl
  | year =>
    rw [Heading.entry, same] at read
    obtain ⟨required, _, _, _, _, flagged, _, _, _, _, rfl⟩ := readYear_eq_ok read
    exact takenFrom_of_flag (by decide) rfl flagged rfl
  | table =>
    rw [Heading.entry, same] at read
    exact takenFrom_of_readTable named read

end Heading

end DocForm
