import DocForm.Proofs.Progress.Counts
import DocForm.Proofs.Validation.Form

/-! What the progress of a parsed form tells about its errors. Main statement: a form that is
complete has no errors, and one is invalid exactly when an answered field has one. -/

namespace DocForm

variable {settings : Settings} {root : Node} {form : ParsedForm} {field : FieldDefinition}
  {issues : List Issue} {issue : Issue}

/-- A field that can be read is submitted exactly when it is answered. -/
theorem isSubmitted_iff_of_readField {node : Node} {kind : FieldKind} {parsed : ParsedField}
    (read : readField settings node kind = .ok parsed) :
    isSubmitted parsed.definition parsed.response = true ↔
      ∃ value, parsed.response = .answered value := by
  cases answer : parsed.response with
  | answered value => simp [isSubmitted_answered, (allow_of_readField read answer).2]
  | _ => simp [isSubmitted, Response.value?]

/-- A field of a parsed form is submitted exactly when it is answered. -/
theorem isSubmitted_iff (read : parseForm settings root = .ok form)
    (member : field ∈ form.schema.fields) :
    isSubmitted field (responseTo form.responses field.id) = true ↔
      ∃ value, responseTo form.responses field.id = .answered value := by
  obtain ⟨node, kind, warnings, _, readTag⟩ := readField_of_mem_fields read member
  exact isSubmitted_iff_of_readField readTag

theorem errorsOf_pos_iff : 0 < (errorsOf field.id issues).length ↔
    ∃ issue ∈ issues, issue.isError = true ∧ issue.reference.fieldId = field.id := by
  rw [List.length_pos_iff_exists_mem]
  simp [errorsOf, List.mem_filter]

section Fields

variable {response : FieldResponse} {outside : Bool}

theorem state_eq_invalid_iff :
    (fieldProgress field response issues outside).state = .invalid ↔
      isSubmitted field response = true ∧ 0 < (errorsOf field.id issues).length := by
  simp only [fieldProgress]
  split_ifs <;> simp_all

theorem state_eq_empty_iff :
    (fieldProgress field response issues outside).state = .empty ↔
      isSubmitted field response = false := by
  simp only [fieldProgress]
  split_ifs <;> simp_all

end Fields

section Forms

variable {skipped : List String}

/-- A count of a form is positive when a field of it is counted. -/
theorem countP_progressList_pos_iff (counted : FieldProgress → Bool) :
    0 < ((progressList form.schema form.responses issues skipped).map (·.2)).countP counted ↔
      ∃ field ∈ form.schema.fields, counted (fieldProgress field
        (responseTo form.responses field.id) issues (skipped.contains field.id)) = true := by
  simp [progressList, List.countP_pos_iff]

/-- Some field is invalid exactly when it is answered and an error refers to it. -/
theorem invalid_pos_iff (read : parseForm settings root = .ok form) :
    0 < (summarise form.schema form.responses issues skipped).counts.invalid ↔
      ∃ field ∈ form.schema.fields, (∃ value, responseTo form.responses field.id = .answered value) ∧
        ∃ issue ∈ issues, issue.isError = true ∧ issue.reference.fieldId = field.id := by
  rw [summarise, ProgressCounts.ofFields_invalid, countP_progressList_pos_iff]
  refine exists_congr fun field => and_congr_right fun member => ?_
  rw [beq_iff_eq, state_eq_invalid_iff, isSubmitted_iff read member, errorsOf_pos_iff]

/-- A required field that is not answered counts as empty and required. -/
theorem emptyRequired_pos (member : field ∈ form.schema.fields) (needed : field.required = true)
    (unanswered : responseTo form.responses field.id = .unanswered) :
    0 < (summarise form.schema form.responses issues skipped).counts.emptyRequired := by
  rw [summarise, ProgressCounts.ofFields_emptyRequired, countP_progressList_pos_iff]
  refine ⟨field, member, ?_⟩
  rw [Bool.and_eq_true, beq_iff_eq, state_eq_empty_iff, unanswered]
  exact ⟨rfl, needed⟩

/-- Every issue is with an answered field, or with one that is required and not answered. -/
theorem answered_or_required
    (found : issue ∈ validateField field (responseTo form.responses field.id)) :
    (∃ value, responseTo form.responses field.id = .answered value) ∨
      (responseTo form.responses field.id = .unanswered ∧ field.required = true) := by
  cases answer : responseTo form.responses field.id with
  | answered value => exact .inl ⟨value, rfl⟩
  | unanswered =>
    rw [answer] at found
    exact .inr ⟨rfl, (finding_of_mem_validateField found).required⟩
  | skipped reason | aborted reason =>
    rw [answer] at found
    simp [validateField] at found

/-- A complete form has no errors, and a form is invalid exactly when an error belongs to a field
that is answered, whatever is skipped outside the document. -/
theorem formState_of_parseForm (read : parseForm settings root = .ok form) (skipped : List String) :
    let issues := validateForm form.schema form.responses
    let counts := (summarise form.schema form.responses issues skipped).counts
    (counts.formState = .complete ∨ counts.isComplete = true →
        ∀ issue ∈ issues, issue.isError = false) ∧
      (counts.formState = .invalid ↔
        ∃ field ∈ form.schema.fields,
          (∃ value, responseTo form.responses field.id = .answered value) ∧
            ∃ issue ∈ issues, issue.isError = true ∧ issue.reference.fieldId = field.id) := by
  intro issues counts
  refine ⟨fun complete issue listed => ?_, ?_⟩
  · obtain ⟨noneInvalid, noneMissing⟩ := ProgressCounts.eq_zero_of_complete complete
    obtain ⟨field, member, found⟩ := mem_validateForm.mp listed
    cases isError : issue.isError with
    | false => rfl
    | true =>
      have refers := (about_of_mem_fields read member found).1.fieldId_eq
      rcases answered_or_required found with answered | ⟨unanswered, needed⟩
      · have positive : 0 < counts.invalid := (invalid_pos_iff read).mpr
          ⟨field, member, answered, issue, listed, isError, refers⟩
        omega
      · have positive : 0 < counts.emptyRequired := emptyRequired_pos member needed unanswered
        omega
  · rw [ProgressCounts.formState_eq_invalid_iff]
    exact invalid_pos_iff read

/-- A form of one field, which is answered. -/
def greeting : Node :=
  ⟨"document", none, .empty, [.sampleTag "form" "greeting" 1 [] [.sampleTag "string-field" "name" 2
    [("label", .text "Name"), ("required", .bool true)] [.sampleValue "Ada\n"]]], []⟩

theorem formState_survey :
    (∃ form, parseForm .standard survey = .ok form ∧
        ∃ field ∈ form.schema.fields,
          (∃ value, responseTo form.responses field.id = .answered value) ∧
            ∃ issue ∈ validateForm form.schema form.responses,
              issue.isError = true ∧ issue.reference.fieldId = field.id) ∧
      ∃ form, parseForm .standard greeting = .ok form ∧
        ∀ issue ∈ validateForm form.schema form.responses, issue.isError = false := by
  constructor
  · obtain ⟨form, read⟩ := exists_parseForm_survey
    have computed : (parseForm .standard survey).toOption.map (fun form =>
        (summarise form.schema form.responses (validateForm form.schema form.responses)
          ["notes"]).counts.formState) = some .invalid := by
      decide +kernel
    rw [read] at computed
    exact ⟨form, read, (formState_of_parseForm read ["notes"]).2.mp (Option.some.inj computed)⟩
  · have computed : (parseForm .standard greeting).toOption.map (fun form =>
        (summarise form.schema form.responses (validateForm form.schema form.responses)
          []).counts.formState) = some .complete := by
      decide +kernel
    obtain ⟨form, found, complete⟩ := Option.map_eq_some_iff.mp computed
    have read := toOption_eq_some.mp found
    exact ⟨form, read, (formState_of_parseForm read []).1 (.inl complete)⟩

end Forms

end DocForm
