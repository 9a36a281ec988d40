import DocForm.Proofs.Form.Origin
import DocForm.Proofs.Validation.Ownership
import DocForm.Progress

/-! Fields do not interfere. Main statement: two runs over a form that agree on one field report the
same issues and the same progress for it, whatever they hold for the other fields. -/

namespace DocForm

variable {schema : FormSchema} {responses others : Responses} {skipped otherSkipped : List String}
  {field : FieldDefinition}

theorem errorsOf_issuesOf (fieldId : String) (issues : List Issue) :
    errorsOf fieldId (issuesOf fieldId issues) = errorsOf fieldId issues := by
  rw [errorsOf, errorsOf, issuesOf, List.filter_filter]
  exact List.filter_congr fun issue _ => by simp

/-- The progress of a field is counted from its own issues. -/
theorem fieldProgress_issuesOf (field : FieldDefinition) (response : FieldResponse)
    (issues : List Issue) (outside : Bool) :
    fieldProgress field response (issuesOf field.id issues) outside =
      fieldProgress field response issues outside := by
  rw [fieldProgress, errorsOf_issuesOf]
  rfl

theorem keys_progressList (schema : FormSchema) (responses : Responses) (issues : List Issue)
    (skipped : List String) :
    (progressList schema responses issues skipped).map (·.1) = schema.fields.map (·.id) := by
  simp [progressList, Function.comp_def]

theorem get?_summarise (distinct : (schema.fields.map (·.id)).Nodup)
    (member : field ∈ schema.fields) (issues : List Issue) :
    (summarise schema responses issues skipped).fields.get? field.id =
      some (fieldProgress field (responseTo responses field.id) (issuesOf field.id issues)
        (skipped.contains field.id)) := by
  rw [fieldProgress_issuesOf]
  apply (Dict.get?_ofList (by rwa [keys_progressList])).mpr
  exact List.mem_map.mpr ⟨field, member, rfl⟩

/-- The progress of a field in a form is the progress of the field alone. -/
theorem get?_summarise_validateForm (distinct : (schema.fields.map (·.id)).Nodup)
    (member : field ∈ schema.fields) :
    (summarise schema responses (validateForm schema responses) skipped).fields.get? field.id =
      some (fieldProgress field (responseTo responses field.id)
        (validateField field (responseTo responses field.id)) (skipped.contains field.id)) := by
  rw [get?_summarise distinct member, issuesOf_validateForm distinct member]

/-- Runs that agree on a field agree on its issues, which are those of the field alone, and on its
progress. -/
theorem agree_on_field (distinct : (schema.fields.map (·.id)).Nodup)
    (member : field ∈ schema.fields)
    (sameResponse : responseTo responses field.id = responseTo others field.id)
    (sameSkip : field.id ∈ skipped ↔ field.id ∈ otherSkipped) :
    let issues := validateForm schema responses
    let otherIssues := validateForm schema others
    issuesOf field.id issues = issuesOf field.id otherIssues ∧
      issuesOf field.id issues = validateField field (responseTo responses field.id) ∧
      ∃ progress,
        (summarise schema responses issues skipped).fields.get? field.id = some progress ∧
          (summarise schema others otherIssues otherSkipped).fields.get? field.id =
            some progress := by
  intro issues otherIssues
  have own : issuesOf field.id issues = validateField field (responseTo responses field.id) :=
    issuesOf_validateForm distinct member responses
  have otherOwn : issuesOf field.id otherIssues = validateField field (responseTo others field.id) :=
    issuesOf_validateForm distinct member others
  have sameFlag : skipped.contains field.id = otherSkipped.contains field.id := by
    rw [Bool.eq_iff_iff, List.contains_iff_mem, List.contains_iff_mem, sameSkip]
  refine ⟨by rw [own, otherOwn, sameResponse], own, _, get?_summarise_validateForm distinct member, ?_⟩
  rw [get?_summarise_validateForm distinct member, sameResponse, sameFlag]

/-- A required name of at least three characters. -/
def nameField (id : String) : FieldDefinition where
  id := id
  label := "Name"
  required := true
  priority := .medium
  role := "agent"
  validators := []
  constraints := .string ⟨some 3, none, none, ⟨none, []⟩⟩
  line := none

/-- A form that asks for two names. -/
def passport : FormSchema := ⟨"passport", none, [⟨none, none, [nameField "first", nameField "last"]⟩]⟩

/-- The short first name is reported alike, whether the last name is too short or left out. -/
theorem agree_on_passport :
    let responses : Responses :=
      .ofList [("first", .answered (.string (some "Al"))), ("last", .answered (.string (some "O")))]
    let others : Responses := .ofList [("first", .answered (.string (some "Al")))]
    validateForm passport responses ≠ validateForm passport others ∧
      issuesOf "first" (validateForm passport responses) =
        issuesOf "first" (validateForm passport others) ∧
      ∃ progress,
        (summarise passport responses (validateForm passport responses) []).fields.get? "first" =
            some progress ∧
          (summarise passport others (validateForm passport others) ["last"]).fields.get? "first" =
            some progress := by
  intro responses others
  have distinct : (passport.fields.map (·.id)).Nodup := by decide
  have member : nameField "first" ∈ passport.fields := List.mem_cons_self
  have sameResponse : responseTo responses "first" = responseTo others "first" := by decide +kernel
  have sameSkip : "first" ∈ ([] : List String) ↔ "first" ∈ ["last"] := by decide
  obtain ⟨sameIssues, _, sameProgress⟩ := agree_on_field distinct member sameResponse sameSkip
  exact ⟨by decide +kernel, sameIssues, sameProgress⟩

end DocForm
