import DocForm.Proofs.Progress.Completion
import DocForm.Proofs.Progress.Isolation

/-! What counts as submitted. Main statement: reading a field and telling its progress agree on what
an answer is, so a form has as many submitted fields as answered ones. -/

namespace DocForm

variable {settings : Settings} {root : Node} {form : ParsedForm}

theorem state_eq_answered_iff {response : FieldResponse} :
    response.state = .answered ↔ ∃ value, response = .answered value := by
  cases response <;> simp [Response.state]

theorem submitted_eq_answered (read : parseForm settings root = .ok form) (issues : List Issue) :
    (summarise form.schema form.responses issues []).counts.submitted =
      (summarise form.schema form.responses issues []).counts.answered := by
  rw [summarise, ProgressCounts.ofFields_submitted, ProgressCounts.ofFields_answered, progressList,
    List.map_map, List.countP_map, List.countP_map]
  apply List.countP_congr
  intro field member
  have submitted := isSubmitted_iff read member
  rw [← state_eq_answered_iff] at submitted
  simpa [fieldProgress] using submitted

/-- A field that is read is submitted exactly when it is answered. In a form without skips from
outside, submitted and answered fields are equally many, and the other fields are the empty ones. -/
theorem submitted_iff_answered (settings : Settings) :
    (∀ node parsed, parseField settings node = .ok (some parsed) →
      (isSubmitted parsed.definition parsed.response = true ↔
        ∃ value, parsed.response = .answered value)) ∧
      ∀ root form, parseForm settings root = .ok form → ∀ issues,
        let summary := summarise form.schema form.responses issues []
        summary.counts.submitted = summary.counts.answered ∧
          ∀ field ∈ form.schema.fields, ∃ progress,
            summary.fields.get? field.id = some progress ∧
              (progress.state = .empty ↔
                ¬ ∃ value, responseTo form.responses field.id = .answered value) := by
  constructor
  · intro node parsed read
    obtain ⟨kind, _, readTag⟩ := exists_readField_of_parseField read
    exact isSubmitted_iff_of_readField readTag
  · intro root form read issues summary
    refine ⟨submitted_eq_answered read issues, fun field member => ?_⟩
    have entry : summary.fields.get? field.id = some _ :=
      get?_summarise (distinct_fields_of_parseForm read) member issues
    refine ⟨_, entry, ?_⟩
    rw [state_eq_empty_iff, ← isSubmitted_iff read member, Bool.not_eq_true]

/-- One of two decisions is taken, and two fields of the survey are filled in. -/
theorem submitted_decisions :
    (∃ parsed, parseField .standard decisions = .ok (some parsed) ∧
        isSubmitted parsed.definition parsed.response = true ∧
        ∃ value, parsed.response = .answered value) ∧
      ∃ form, parseForm .standard survey = .ok form ∧
        let counts := (summarise form.schema form.responses [] []).counts
        counts.submitted = 2 ∧ counts.answered = 2 := by
  obtain ⟨ofField, ofForm⟩ := submitted_iff_answered .standard
  constructor
  · have computed : ((parseField .standard decisions).toOption.bind id).any
        (fun parsed => isSubmitted parsed.definition parsed.response) = true := by
      decide +kernel
    obtain ⟨parsed, found, submitted⟩ := (Option.any_eq_true _ _).mp computed
    obtain ⟨outcome, read, rfl⟩ := Option.bind_eq_some_iff.mp found
    have read := toOption_eq_some.mp read
    exact ⟨parsed, read, submitted, (ofField decisions parsed read).mp submitted⟩
  · obtain ⟨form, read⟩ := exists_parseForm_survey
    have computed : (parseForm .standard survey).toOption.map (fun form =>
        (summarise form.schema form.responses [] []).counts.submitted) = some 2 := by
      decide +kernel
    rw [read] at computed
    have submitted := Option.some.inj computed
    have same := (ofForm survey form read []).1
    exact ⟨form, read, submitted, same.symm.trans submitted⟩

end DocForm
