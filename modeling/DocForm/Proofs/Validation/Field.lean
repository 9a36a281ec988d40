import DocForm.Proofs.Field.Legal
import DocForm.Proofs.Validation.Check

/-! What the issues with a field are about. Main statement: issues with an answer that the
constraints allow refer to the field or to a cell of its table, and none of them says that the
value is no answer to the field. -/

namespace DocForm

/-- Codes of values that are no answer to their field, whatever its limits say. -/
def IssueCode.isMalformed : IssueCode → Bool
  | .kindMismatch | .unknownOption | .invalidCheckboxState | .cellMissing | .cellEmpty => true
  | _ => false

/-- What an issue with a field refers to: the field, or a cell of the table that it holds. -/
inductive About (field : FieldDefinition) (response : FieldResponse) : Reference → Prop where
  | field : About field response (.field field.id)
  | cell {limits : TableLimits} {rows : List TableRow} {column : TableColumn} {row : Nat}
      (declared : field.constraints = .table limits) (held : response = .answered (.table rows))
      (member : column ∈ limits.columns) (below : row < rows.length) :
      About field response (.cell field.id column.id row)

variable {field : FieldDefinition} {response : FieldResponse} {value : FieldValue} {issue : Issue}

theorem About.fieldId_eq {reference : Reference} (about : About field response reference) :
    reference.fieldId = field.id := by
  cases about <;> rfl

theorem Issue.IsLimit.about (isLimit : issue.IsLimit field.id) :
    About field response issue.reference ∧ issue.code.isMalformed = false := by
  obtain ⟨code, _, reference⟩ := isLimit
  refine ⟨by rw [reference]; exact .field, ?_⟩
  cases same : issue.code <;> simp_all [IssueCode.isLimit, IssueCode.isMalformed]

/-- A declared option is known. -/
theorem FieldDefinition.option?_ne_none {id : String} (declared : id ∈ field.options.map (·.id)) :
    field.option? id ≠ none := by
  obtain ⟨option, present, rfl⟩ := List.mem_map.mp declared
  rw [← Option.isSome_iff_ne_none, FieldDefinition.option?, List.find?_isSome]
  exact ⟨option, present, by simp⟩

namespace Constraints.Allow

theorem option?_ne_none {id : String} (allowed : field.constraints.Allow value)
    (mentions : value.Mentions id) : field.option? id ≠ none := by
  apply FieldDefinition.option?_ne_none
  have sameKind := allowed.kind
  rw [FieldDefinition.options]
  cases mentions with
  | selected =>
    cases declared : field.constraints with
    | singleSelect options =>
      rw [declared] at allowed
      exact allowed id rfl
    | _ => simp [declared, FieldValue.kind, Constraints.kind] at sameKind
  | listed member =>
    cases declared : field.constraints with
    | multiSelect limits =>
      rw [declared] at allowed
      exact allowed id member
    | _ => simp [declared, FieldValue.kind, Constraints.kind] at sameKind
  | marked member =>
    cases declared : field.constraints with
    | checkboxes limits =>
      rw [declared] at allowed
      exact (allowed _ member).1
    | _ => simp [declared, FieldValue.kind, Constraints.kind] at sameKind

theorem allowedIn {limits : CheckboxLimits} {values : Dict CheckboxState}
    (allowed : field.constraints.Allow (.checkboxes values))
    (declared : field.constraints = .checkboxes limits) {entry : String × CheckboxState}
    (member : entry ∈ values.entries) : entry.2.allowedIn limits.mode = true := by
  rw [declared] at allowed
  exact (allowed entry member).2

end Constraints.Allow

/-- In a full row the only fault of a cell is that its value does not fit. -/
theorem TableColumn.HasFault.mismatch_of_fills {column : TableColumn} {limits : TableLimits}
    {cells : TableRow} {fault : CellFault} (faulty : column.HasFault cells fault)
    (filled : limits.Fills cells) (present : column ∈ limits.columns) :
    fault.code = .cellTypeMismatch := by
  obtain ⟨cell, found, given⟩ := filled column present
  cases faulty with
  | missing absent => simp [absent] at found
  | empty held => exact absurd (Option.some.inj (found.symm.trans held)) given
  | mismatch => rfl

theorem about_of_finds (allowed : field.constraints.Allow value)
    (found : field.Finds value issue) :
    About field (.answered value) issue.reference ∧ issue.code.isMalformed = false := by
  cases found with
  | limit isLimit => exact isLimit.about
  | option mentions undeclared => exact absurd undeclared (allowed.option?_ne_none mentions)
  | state declared member outside =>
    rw [allowed.allowedIn declared member] at outside
    cases outside
  | @cell limits rows faulty declared listed =>
    rw [declared] at allowed
    obtain ⟨cells, held, column, present, named, hasFault⟩ := mem_faultyCells_iff.mp listed
    obtain ⟨below, rfl⟩ := List.getElem?_eq_some_iff.mp held
    have code := hasFault.mismatch_of_fills (allowed.2 _ (List.getElem_mem below)) present
    refine ⟨?_, by rw [FaultyCell.issue, code]; rfl⟩
    rw [FaultyCell.issue, FaultyCell.reference, ← named]
    exact .cell declared rfl present below

/-- An issue with a field whose answer is allowed refers to the field or to one of its cells. -/
theorem about_of_mem_validateField
    (allowed : ∀ value, response = .answered value → field.constraints.Allow value)
    (member : issue ∈ validateField field response) :
    About field response issue.reference ∧ issue.code.isMalformed = false := by
  cases finding_of_mem_validateField member with
  | value sameKind found => exact about_of_finds (allowed _ rfl) found
  | remark sameKind typed found =>
    rw [(FieldDefinition.mem_checkSentinel_iff.mp found).2]
    exact ⟨.field, rfl⟩
  | otherKind different => exact absurd (allowed _ rfl).kind different
  | missing => exact ⟨.field, rfl⟩
  | noRows needed table isLimit => exact isLimit.about

end DocForm
