import DocForm.Proofs.Form.Origin
import DocForm.Proofs.Validation.Field

/-! What the issues with a parsed form are about. Main statement: each refers to a field of the
form or to a cell of its table, since parsing rules out every other one. -/

namespace DocForm

variable {settings : Settings} {root : Node} {form : ParsedForm} {field : FieldDefinition}
  {issue : Issue}

theorem isIdentifier_of_mem_fields (read : parseForm settings root = .ok form)
    (member : field ∈ form.schema.fields) : isIdentifier field.id = true := by
  obtain ⟨node, kind, warnings, _, readTag⟩ := readField_of_mem_fields read member
  exact isIdentifier_of_readField readTag

/-- An answer in a parsed form is allowed by its field, and it is not empty. -/
theorem allow_of_mem_fields (read : parseForm settings root = .ok form)
    (member : field ∈ form.schema.fields) {value : FieldValue}
    (answered : responseTo form.responses field.id = .answered value) :
    field.constraints.Allow value ∧ value.isEmpty field.checkboxMode? = false := by
  obtain ⟨node, kind, warnings, _, readTag⟩ := readField_of_mem_fields read member
  exact allow_of_readField readTag answered

theorem mem_validateForm {schema : FormSchema} {responses : Responses} :
    issue ∈ validateForm schema responses ↔
      ∃ field ∈ schema.fields, issue ∈ validateField field (responseTo responses field.id) :=
  List.mem_flatMap

/-- An issue with a field of a parsed form refers to that field or to a cell of its table. -/
theorem about_of_mem_fields (read : parseForm settings root = .ok form)
    (member : field ∈ form.schema.fields)
    (found : issue ∈ validateField field (responseTo form.responses field.id)) :
    About field (responseTo form.responses field.id) issue.reference ∧
      issue.code.isMalformed = false :=
  about_of_mem_validateField
    (fun _ answered => (allow_of_mem_fields read member answered).1) found

end DocForm
