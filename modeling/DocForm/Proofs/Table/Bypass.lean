import DocForm.Proofs.Field.Legal
import DocForm.Proofs.Field.Parts
import DocForm.Proofs.Table.Grammar

/-! Tables that are passed over. Main statement: only a field that is skipped or aborted goes without
columns; the columns of any other table field, and the rows it answers with, are those of the
table in its text. -/

namespace DocForm

variable {labelled : Bool} {declared : Option (List TableColumn)} {columns : List TableColumn}
  {lines body : List String}

theorem length_of_tellsKinds {width : Nat} {types : List String} {kinds : List ColumnKind}
    (told : TellsKinds width types kinds) : kinds.length = width := by
  cases told with
  | silent => exact List.length_replicate
  | row typed => exact typed.2.length_eq.symm.trans typed.1

/-- A table has columns if it is declared to have some, or else if it has a header. -/
theorem TableLayout.columns_ne_nil (layout : TableLayout labelled declared lines columns body)
    (some : ∀ known ∈ declared, known ≠ []) : columns ≠ [] := by
  cases layout with
  | empty => exact some columns rfl
  | @declared known header =>
    have known := some known rfl
    split
    · exact known
    · simpa [underHeader] using known
  | @inline header _ _ _ kinds _ told =>
    have width := length_of_tellsKinds told
    intro none
    have narrow : ((splitRow header).zip kinds).length = 0 := by
      simpa [headerColumns] using congrArg List.length none
    rw [List.length_zip, width, Nat.min_self, List.length_eq_zero_iff] at narrow
    exact splitRow_ne_nil header narrow

theorem columns_ne_nil_of_parseTable {node : Node} {place : Place} {text : Option String}
    {table : ParsedTable} (explicit : explicitColumns node place = .ok declared)
    (read : parseTable text declared labelled place = .ok table) : table.columns ≠ [] := by
  obtain ⟨body, layout, _⟩ := parseTable_eq_ok_iff.mp read
  refine layout.columns_ne_nil fun known isDeclared => ?_
  rw [Option.mem_def.mp isDeclared] at explicit
  exact explicitColumns_ne_nil explicit

variable {node : Node} {response : FieldResponse}

/-- The response gives a reason, if anything, in place of an answer. -/
def Response.IsDeclined {α : Type} (response : Response α) : Prop :=
  ∃ reason, response = .skipped reason ∨ response = .aborted reason

theorem isDeclined_response {α : Type} (sentinel : Sentinel) :
    (sentinel.response : Response α).IsDeclined := by
  obtain ⟨kind, reason⟩ := sentinel
  cases kind with
  | skip => exact ⟨reason, .inl rfl⟩
  | abort => exact ⟨reason, .inr rfl⟩

/-- A tag whose table is passed over settles as skipped or aborted: what decides to pass over the
text decides on the response too. -/
theorem isDeclined_of_isBypassed {state : Option String} (settled : Settles node .table response)
    (stated : node.attribute? "state" = state.map .text)
    (bypassed : Heading.isBypassed node.tableText? state = true) : response.IsDeclined := by
  have declines (bare : node.sentinel? .table = none) :
      state = some "skipped" ∨ state = some "aborted" := by
    have noSentinel : node.tableText?.bind Sentinel.parse? = none := bare
    simp only [Heading.isBypassed, noSentinel, Option.isSome_none, Bool.false_or,
      Bool.and_eq_true, Bool.or_eq_true, decide_eq_true_eq] at bypassed
    exact bypassed.2
  cases settled with
  | @sentinel sentinel => exact isDeclined_response sentinel
  | skipped => exact ⟨none, .inl rfl⟩
  | aborted => exact ⟨none, .inr rfl⟩
  | answered bare _ agrees =>
    rcases declines bare with rfl | rfl <;>
      simp [Node.Stateless, Node.InState, stated] at agrees
  | unanswered bare agrees =>
    rcases declines bare with rfl | rfl <;>
      simp [Node.Stateless, Node.InState, stated] at agrees

/-- The columns of a field are those of the table in its text, and so are the rows of its answer. -/
def ParsedField.HoldsTable (parsed : ParsedField) (node : Node) : Prop :=
  let place : Place := ⟨some parsed.definition.id, node.line?⟩
  ∃ declared table, explicitColumns node place = .ok declared ∧
    parseTable node.tableText? declared (node.hasAttribute "columnLabels") place = .ok table ∧
      parsed.definition.columns = table.columns ∧
        ∀ value, parsed.response = .answered value → value = .table table.rows

variable {settings : Settings} {parsed : ParsedField}

/-- What a table field holds is its table, unless its text is passed over. -/
theorem holdsTable_or_isDeclined (read : readField settings node .table = .ok parsed) :
    parsed.HoldsTable node ∨ parsed.response.IsDeclined := by
  obtain ⟨heading, entry, headed, entered, taken, sameId, _, constraints, settled⟩ :=
    readField_eq_ok read
  obtain ⟨rfl, isTable, _⟩ := Heading.ofNode_eq_ok headed
  rw [Heading.entry, isTable] at entered
  obtain ⟨_, minRows, maxRows, declared, state, table, _, _, explicit, stated, found, rfl⟩ :=
    Heading.readTable_eq_ok entered
  rcases found with ⟨bypassed, _⟩ | ⟨_, found⟩
  · exact .inr (isDeclined_of_isBypassed settled (Heading.attribute?_of_text stated) bypassed)
  · refine .inl ⟨declared, table, ?_, ?_, FieldDefinition.columns_of_table constraints, ?_⟩
    · rw [sameId]
      exact explicit
    · rw [sameId]
      exact found
    · intro value answered
      rw [answered] at settled
      exact (settled.eq_value taken).1

/-- A table field without columns is skipped or aborted, and one that is neither holds the table in
its text. -/
theorem holdsTable_of_parseField (known : node.fieldKind? = some .table)
    (read : parseField settings node = .ok (some parsed)) :
    (parsed.definition.columns = [] → parsed.response.IsDeclined) ∧
      (parsed.response = .unanswered ∨ (∃ value, parsed.response = .answered value) →
        parsed.HoldsTable node) := by
  have outcome := holdsTable_or_isDeclined (readField_of_parseField known read)
  constructor
  · intro none
    refine outcome.resolve_left ?_
    rintro ⟨declared, table, explicit, found, columns, _⟩
    exact columns_ne_nil_of_parseTable explicit found (columns.symm.trans none)
  · intro undeclined
    refine outcome.resolve_right ?_
    rintro ⟨reason, skipped | aborted⟩
    · simp [skipped] at undeclined
    · simp [aborted] at undeclined

/-- Orders that nobody has declared columns for. -/
def orders (content : String) : Node where
  type := "tag"
  tag := some "table-field"
  attributes := .ofList [("id", .text "orders"), ("label", .text "Orders")]
  children := [⟨"fence", none, .ofList [("language", .text "value"), ("content", .text content)],
    [], [2]⟩]
  lines := [1]

/-- Skipped orders have no columns; where there are orders, their header tells the columns. -/
theorem holdsTable_orders :
    (∃ parsed, parseField .standard (orders "%SKIP% (none yet)\n") = .ok (some parsed) ∧
        parsed.definition.columns = [] ∧ parsed.response.IsDeclined) ∧
      ∃ parsed value, parseField .standard (orders "| Item |\n|---|\n| Tea |\n") =
          .ok (some parsed) ∧
        parsed.response = .answered value ∧
          parsed.HoldsTable (orders "| Item |\n|---|\n| Tea |\n") := by
  constructor
  · have skipped : ((parseField .standard (orders "%SKIP% (none yet)\n")).toOption.join.any
        fun parsed => decide (parsed.definition.columns = [])) = true := by
      decide +kernel
    obtain ⟨parsed, read, tested⟩ := exists_ok_of_any skipped
    have none := of_decide_eq_true tested
    exact ⟨parsed, read, none, (holdsTable_of_parseField (by decide) read).1 none⟩
  · have filled : ((parseField .standard (orders "| Item |\n|---|\n| Tea |\n")).toOption.join.any
        fun parsed => parsed.response.value?.isSome) = true := by
      decide +kernel
    obtain ⟨parsed, read, tested⟩ := exists_ok_of_any filled
    obtain ⟨value, found⟩ := Option.isSome_iff_exists.mp tested
    have answered : parsed.response = .answered value := by
      cases response : parsed.response <;> simp_all [Response.value?]
    exact ⟨parsed, value, read, answered,
      (holdsTable_of_parseField (by decide) read).2 (.inr ⟨value, answered⟩)⟩

end DocForm
