import DocForm.Proofs.Field.Parts
import DocForm.Proofs.Outcome
import DocForm.Reference.Resolve

/-! What a reference resolves to, in any form. Main statement: a reference resolves to itself, or
to the column of a table that it names like an option, when that part is declared; else the first
of four obstacles is told. -/

namespace DocForm

namespace FormSchema

variable {schema : FormSchema}

theorem id_of_field? {id : String} {field : FieldDefinition}
    (found : schema.field? id = some field) : field.id = id := by
  simpa using List.find?_some found

/-- The part that a reference names is declared in its field. -/
def Declares (schema : FormSchema) : Reference → Prop
  | .field fieldId => ∃ field, schema.field? fieldId = some field
  | .option fieldId id => ∃ field, schema.field? fieldId = some field ∧ field.HasOption id
  | .column fieldId id | .cell fieldId id _ =>
    ∃ field, schema.field? fieldId = some field ∧ field.HasColumn id

end FormSchema

namespace Reference

/-- The second name of a reference. -/
def partId? : Reference → Option String
  | .field _ => none
  | .option _ id | .column _ id | .cell _ id _ => some id

/-- Columns and cells are parts that only a table has. -/
def isOfTable : Reference → Bool
  | .field _ | .option _ _ => false
  | .column _ _ | .cell _ _ _ => true

/-- A reference as the kind of its field tells it: two names are a column when that is a table. -/
def typedIn (schema : FormSchema) : Reference → Reference
  | .option fieldId id =>
    if (schema.field? fieldId).any fun field => field.kind = .table then .column fieldId id
    else .option fieldId id
  | reference => reference

/-- A cell lies in a row that is known to be there, unless the number of rows is not known. -/
def WithinRows (counts : Option RowCounts) : Reference → Prop
  | .cell fieldId _ row => ∀ known ∈ counts, row < (known.get? fieldId).getD 0
  | _ => True

/-- What a reference is refused for: an unknown field, else one of another kind, else an unknown
option or column, else a row that is not there. -/
inductive Refused (schema : FormSchema) (counts : Option RowCounts) :
    Reference → ReferenceError → Prop where
  | unknownField {reference : Reference} (unknown : schema.field? reference.fieldId = none) :
      Refused schema counts reference (.unknownField reference.fieldId)
  | notSelectableOrTable {fieldId id : String} {field : FieldDefinition}
      (found : schema.field? fieldId = some field) (noChooser : field.kind.isChooser = false)
      (noTable : field.kind ≠ .table) :
      Refused schema counts (.option fieldId id) (.notSelectableOrTable fieldId field.kind)
  | notTable {reference : Reference} {field : FieldDefinition}
      (found : schema.field? reference.fieldId = some field) (ofTable : reference.isOfTable = true)
      (noTable : field.kind ≠ .table) :
      Refused schema counts reference (.notTable reference.fieldId field.kind)
  | unknownOption {fieldId id : String} {field : FieldDefinition}
      (found : schema.field? fieldId = some field) (chooser : field.kind.isChooser = true)
      (unknown : id ∉ field.options.map (·.id)) :
      Refused schema counts (.option fieldId id)
        (.unknownOption fieldId id (field.options.map (·.id)))
  | unknownColumn {reference : Reference} {id : String} {field : FieldDefinition}
      (found : schema.field? reference.fieldId = some field) (part : reference.partId? = some id)
      (table : field.kind = .table) (unknown : id ∉ field.columns.map (·.id)) :
      Refused schema counts reference
        (.unknownColumn reference.fieldId id (field.columns.map (·.id)))
  | outOfBounds {fieldId columnId : String} {row : Nat} {known : RowCounts}
      (declared : schema.Declares (.cell fieldId columnId row)) (counted : counts = some known)
      (beyond : (known.get? fieldId).getD 0 ≤ row) :
      Refused schema counts (.cell fieldId columnId row)
        (.outOfBounds fieldId row ((known.get? fieldId).getD 0))

variable {schema : FormSchema} {counts : Option RowCounts} {reference : Reference}
  {field : FieldDefinition} {columnId : String}

theorem fieldId_typedIn (schema : FormSchema) (reference : Reference) :
    (reference.typedIn schema).fieldId = reference.fieldId := by
  cases reference with
  | option => rw [typedIn]; split <;> rfl
  | field | column | cell => rfl

theorem render_typedIn (schema : FormSchema) (reference : Reference) :
    (reference.typedIn schema).render = reference.render := by
  cases reference with
  | option => rw [typedIn]; split <;> rfl
  | field | column | cell => rfl

theorem typedIn_typedIn (schema : FormSchema) (reference : Reference) :
    (reference.typedIn schema).typedIn schema = reference.typedIn schema := by
  cases reference with
  | option fieldId id =>
    by_cases table : (schema.field? fieldId).any (fun field => field.kind = .table) = true
    · rw [typedIn, if_pos table]
      rfl
    · rw [typedIn, if_neg table, typedIn, if_neg table]
  | field | column | cell => rfl

theorem tableWith_of_hasColumn (column : field.HasColumn columnId) :
    ∃ limits, tableWith field columnId = .ok limits := by
  obtain ⟨limits, declared⟩ := FieldDefinition.exists_of_kind_table column.1
  have known : (limits.column? columnId).isSome = true :=
    TableLimits.isSome_column?_iff.mpr ((FieldDefinition.hasColumn_iff declared).mp column)
  exact ⟨limits, by simp [tableWith, declared, Constraints.table?, known]⟩

theorem tableWith_of_unknown (table : field.kind = .table)
    (unknown : columnId ∉ field.columns.map (·.id)) :
    tableWith field columnId =
      .error (.unknownColumn field.id columnId (field.columns.map (·.id))) := by
  obtain ⟨limits, declared⟩ := FieldDefinition.exists_of_kind_table table
  rw [FieldDefinition.columns_of_table declared] at unknown ⊢
  have missing : ¬ (limits.column? columnId).isSome = true :=
    mt TableLimits.isSome_column?_iff.mp unknown
  simp only [tableWith, declared, Constraints.table?, if_neg missing]
  rfl

theorem tableWith_of_ne_table (noTable : field.kind ≠ .table) :
    tableWith field columnId = .error (.notTable field.id field.kind) := by
  rw [tableWith, FieldDefinition.table?_of_ne_table noTable]

theorem resolve_of_declares (declared : schema.Declares (reference.typedIn schema))
    (within : (reference.typedIn schema).WithinRows counts) :
    reference.resolve schema counts = .ok (reference.typedIn schema) := by
  cases reference with
  | field fieldId =>
    obtain ⟨field, found⟩ := declared
    simp [resolve, Reference.fieldId, found, typedIn]
  | option fieldId id =>
    by_cases table : (schema.field? fieldId).any (fun field => field.kind = .table) = true
    · rw [typedIn, if_pos table] at declared ⊢
      obtain ⟨field, found, column⟩ := declared
      obtain ⟨limits, known⟩ := tableWith_of_hasColumn column
      have noOptions :=
        FieldDefinition.options?_of_not_isChooser (FieldDefinition.isChooser_of_table column.1)
      simp [resolve, Reference.fieldId, found, noOptions, column.1, known, bind, Except.bind]
    · rw [typedIn, if_neg table] at declared ⊢
      obtain ⟨field, found, chooser, member⟩ := declared
      have listed : field.options.any (fun option => option.id == id) = true := by
        simpa using member
      simp [resolve, Reference.fieldId, found, FieldDefinition.options?_of_isChooser chooser, listed]
  | column fieldId id =>
    obtain ⟨field, found, column⟩ := declared
    obtain ⟨limits, known⟩ := tableWith_of_hasColumn column
    simp [resolve, Reference.fieldId, found, known, typedIn, bind, Except.bind]
  | cell fieldId id row =>
    obtain ⟨field, found, column⟩ := declared
    obtain ⟨limits, known⟩ := tableWith_of_hasColumn column
    cases counts with
    | none => simp [resolve, Reference.fieldId, found, known, typedIn, bind, Except.bind]
    | some counted =>
      have below : row < (counted.get? fieldId).getD 0 := within counted rfl
      simp [resolve, Reference.fieldId, found, known, below, typedIn, bind, Except.bind]

theorem resolve_of_refused {error : ReferenceError} (refused : Refused schema counts reference error) :
    reference.resolve schema counts = .error error := by
  cases refused with
  | unknownField unknown => rw [resolve, unknown]
  | notSelectableOrTable found noChooser noTable =>
    simp [resolve, fieldId, found, FieldDefinition.options?_of_not_isChooser noChooser, noTable]
  | notTable found ofTable noTable =>
    rw [← FormSchema.id_of_field? found]
    cases reference with
    | field | option => cases ofTable
    | column | cell => simp [resolve, found, tableWith_of_ne_table noTable, bind, Except.bind]
  | @unknownOption fieldId id field found chooser unknown =>
    have unlisted : field.options.any (fun option => option.id == id) = false := by
      simpa using unknown
    simp [resolve, Reference.fieldId, found, FieldDefinition.options?_of_isChooser chooser, unlisted]
  | unknownColumn found part table unknown =>
    rw [← FormSchema.id_of_field? found]
    have noOptions :=
      FieldDefinition.options?_of_not_isChooser (FieldDefinition.isChooser_of_table table)
    cases reference with
    | field => cases part
    | option | column | cell =>
      cases part
      simp [resolve, found, noOptions, table, tableWith_of_unknown table unknown, bind, Except.bind]
  | outOfBounds declared counted beyond =>
    obtain ⟨field, found, column⟩ := declared
    obtain ⟨limits, known⟩ := tableWith_of_hasColumn column
    simp [resolve, fieldId, found, known, counted, Nat.not_lt.mpr beyond, bind, Except.bind]

/-- A reference is either declared, within the known rows, or refused. -/
theorem declares_or_refused (schema : FormSchema) (counts : Option RowCounts)
    (reference : Reference) :
    (schema.Declares (reference.typedIn schema) ∧ (reference.typedIn schema).WithinRows counts) ∨
      ∃ error, Refused schema counts reference error := by
  cases found : schema.field? reference.fieldId with
  | none => exact .inr ⟨_, .unknownField found⟩
  | some field =>
    cases reference with
    | field fieldId => exact .inl ⟨⟨field, found⟩, trivial⟩
    | option fieldId id =>
      have found : schema.field? fieldId = some field := found
      by_cases table : field.kind = .table
      · by_cases member : id ∈ field.columns.map (·.id)
        · have typed : (option fieldId id).typedIn schema = .column fieldId id := by
            simp [typedIn, found, table]
          rw [typed]
          exact .inl ⟨⟨field, found, table, member⟩, trivial⟩
        · exact .inr ⟨_, .unknownColumn found rfl table member⟩
      · have typed : (option fieldId id).typedIn schema = .option fieldId id := by
          simp [typedIn, found, table]
        rw [typed]
        cases chooser : field.kind.isChooser with
        | false => exact .inr ⟨_, .notSelectableOrTable found chooser table⟩
        | true =>
          by_cases member : id ∈ field.options.map (·.id)
          · exact .inl ⟨⟨field, found, chooser, member⟩, trivial⟩
          · exact .inr ⟨_, .unknownOption found chooser member⟩
    | column fieldId id =>
      by_cases table : field.kind = .table
      · by_cases member : id ∈ field.columns.map (·.id)
        · exact .inl ⟨⟨field, found, table, member⟩, trivial⟩
        · exact .inr ⟨_, .unknownColumn found rfl table member⟩
      · exact .inr ⟨_, .notTable found rfl table⟩
    | cell fieldId id row =>
      by_cases table : field.kind = .table
      · by_cases member : id ∈ field.columns.map (·.id)
        · have declared : schema.Declares (.cell fieldId id row) := ⟨field, found, table, member⟩
          by_cases within : (cell fieldId id row).WithinRows counts
          · exact .inl ⟨declared, within⟩
          · simp only [WithinRows, not_forall, Nat.not_lt] at within
            obtain ⟨known, counted, beyond⟩ := within
            exact .inr ⟨_, .outOfBounds declared counted beyond⟩
        · exact .inr ⟨_, .unknownColumn found rfl table member⟩
      · exact .inr ⟨_, .notTable found rfl table⟩

theorem resolve_eq_ok_iff {result : Reference} : reference.resolve schema counts = .ok result ↔
    result = reference.typedIn schema ∧ schema.Declares result ∧ result.WithinRows counts := by
  constructor
  · intro resolved
    rcases declares_or_refused schema counts reference with ⟨declared, within⟩ | ⟨error, refused⟩
    · cases resolved.symm.trans (resolve_of_declares declared within)
      exact ⟨rfl, declared, within⟩
    · cases resolved.symm.trans (resolve_of_refused refused)
  · rintro ⟨rfl, declared, within⟩
    exact resolve_of_declares declared within

theorem resolve_eq_error_iff {error : ReferenceError} :
    reference.resolve schema counts = .error error ↔ Refused schema counts reference error := by
  refine ⟨fun refused => ?_, resolve_of_refused⟩
  rcases declares_or_refused schema counts reference with ⟨declared, within⟩ | ⟨other, known⟩
  · cases refused.symm.trans (resolve_of_declares declared within)
  · cases refused.symm.trans (resolve_of_refused known)
    exact known

/-- What a reference has in common with what it resolves to. -/
structure Resolution (schema : FormSchema) (counts : Option RowCounts)
    (reference result : Reference) : Prop where
  typed : result = reference.typedIn schema
  sameField : result.fieldId = reference.fieldId
  sameText : result.render = reference.render
  declared : schema.Declares result
  within : result.WithinRows counts
  /-- Resolving once more changes nothing. -/
  settled : result.resolve schema counts = .ok result

/-- A reference resolves to its resolution, and it is refused for the first obstacle only. -/
theorem resolves_or_refused (schema : FormSchema) (counts : Option RowCounts)
    (reference : Reference) :
    (∀ result, reference.resolve schema counts = .ok result ↔
      Resolution schema counts reference result) ∧
    ∀ error, reference.resolve schema counts = .error error ↔
      Refused schema counts reference error := by
  refine ⟨fun result => ⟨fun resolved => ?_, fun resolution => ?_⟩, fun _ => resolve_eq_error_iff⟩
  · obtain ⟨typed, declared, within⟩ := resolve_eq_ok_iff.mp resolved
    have again : result = result.typedIn schema := by rw [typed, typedIn_typedIn]
    exact {
      typed, declared, within
      sameField := by rw [typed, fieldId_typedIn]
      sameText := by rw [typed, render_typedIn]
      settled := resolve_eq_ok_iff.mpr ⟨again, declared, within⟩ }
  · exact resolve_eq_ok_iff.mpr ⟨resolution.typed, resolution.declared, resolution.within⟩

end Reference

end DocForm
