import DocForm.Field.Definition

/-! The parts of a field that have ids. Main statements: exactly the choosers declare options, and
exactly the tables declare columns. -/

namespace DocForm

namespace Constraints

theorem isSome_options? (constraints : Constraints) :
    constraints.options?.isSome = constraints.kind.isChooser := by
  cases constraints <;> rfl

theorem isSome_table?_iff {constraints : Constraints} :
    constraints.table?.isSome = true ↔ constraints.kind = .table := by
  cases constraints <;> simp [table?, kind]

end Constraints

namespace FieldDefinition

variable {field : FieldDefinition} {id : String}

/-- A chooser declares an option with the id. -/
def HasOption (field : FieldDefinition) (id : String) : Prop :=
  field.kind.isChooser = true ∧ id ∈ field.options.map (·.id)

/-- A table declares a column with the id. -/
def HasColumn (field : FieldDefinition) (id : String) : Prop :=
  field.kind = .table ∧ id ∈ field.columns.map (·.id)

theorem isChooser_of_table (table : field.kind = .table) : field.kind.isChooser = false := by
  rw [table]
  rfl

theorem options?_of_isChooser (chooser : field.kind.isChooser = true) :
    field.constraints.options? = some field.options := by
  rw [kind, ← Constraints.isSome_options?] at chooser
  obtain ⟨options, declared⟩ := Option.isSome_iff_exists.mp chooser
  rw [FieldDefinition.options, declared, Option.getD_some]

theorem options?_of_not_isChooser (noChooser : field.kind.isChooser = false) :
    field.constraints.options? = none := by
  rw [kind, ← Constraints.isSome_options?] at noChooser
  simpa using noChooser

theorem isChooser_of_mem_options {option : FieldOption} (listed : option ∈ field.options) :
    field.kind.isChooser = true := by
  rw [kind, ← Constraints.isSome_options?]
  rw [options] at listed
  cases declared : field.constraints.options? with
  | none => simp [declared] at listed
  | some => rfl

theorem options_of_checkboxes {limits : CheckboxLimits}
    (declared : field.constraints = .checkboxes limits) : field.options = limits.options := by
  rw [options, declared]
  rfl

theorem checkboxMode?_of_checkboxes {limits : CheckboxLimits}
    (declared : field.constraints = .checkboxes limits) :
    field.checkboxMode? = some limits.mode := by
  rw [checkboxMode?, declared]
  rfl

theorem exists_of_kind_table (table : field.kind = .table) :
    ∃ limits, field.constraints = .table limits := by
  rw [FieldDefinition.kind] at table
  cases declared : field.constraints with
  | table limits => exact ⟨limits, rfl⟩
  | _ => simp [declared, Constraints.kind] at table

theorem table?_of_ne_table (noTable : field.kind ≠ .table) : field.constraints.table? = none := by
  simpa using mt Constraints.isSome_table?_iff.mp noTable

theorem columns_of_table {limits : TableLimits} (declared : field.constraints = .table limits) :
    field.columns = limits.columns := by
  rw [columns, declared]
  rfl

theorem table_of_mem_columns {column : TableColumn} (listed : column ∈ field.columns) :
    field.kind = .table := by
  rw [kind, ← Constraints.isSome_table?_iff]
  rw [columns] at listed
  cases declared : field.constraints.table? with
  | none => simp [declared] at listed
  | some => rfl

theorem hasColumn_iff_exists : field.HasColumn id ↔ ∃ column ∈ field.columns, column.id = id := by
  constructor
  · rintro ⟨_, member⟩
    exact List.mem_map.mp member
  · rintro ⟨column, listed, rfl⟩
    exact ⟨table_of_mem_columns listed, List.mem_map_of_mem listed⟩

theorem hasColumn_iff {limits : TableLimits} (declared : field.constraints = .table limits) :
    field.HasColumn id ↔ id ∈ limits.columnIds := by
  have table : field.kind = .table := by
    rw [kind, declared]
    rfl
  rw [HasColumn, columns_of_table declared, TableLimits.columnIds, and_iff_right table]

end FieldDefinition

theorem TableLimits.isSome_column?_iff {limits : TableLimits} {id : String} :
    (limits.column? id).isSome = true ↔ id ∈ limits.columnIds := by
  simp [TableLimits.column?, TableLimits.columnIds, List.find?_isSome]

end DocForm
