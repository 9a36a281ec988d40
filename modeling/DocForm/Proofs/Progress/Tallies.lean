import DocForm.Proofs.Progress.Checklist
import DocForm.Proofs.Progress.Isolation

/-! What the counts of a form stand for. Main statement: they are exact tallies of the entries of its
fields, so whether a form is finished can be told from the entries one by one. -/

namespace DocForm

/-- Two conditions that exclude each other are counted apart. -/
theorem countP_add_countP {α : Type} {first second : α → Bool} {items : List α}
    (apart : ∀ item, first item = true → second item = false) :
    items.countP first + items.countP second =
      items.countP fun item => first item || second item := by
  induction items with
  | nil => rfl
  | cons item rest ih =>
    rw [List.countP_cons, List.countP_cons, List.countP_cons, ← ih]
    cases here : first item with
    | false => simp [Nat.add_assoc]
    | true =>
      rw [apart item here]
      simp
      omega

namespace ProgressCounts

/-- Each count is the number of the fields that it is about. -/
structure Tallies (counts : ProgressCounts) (fields : List FieldProgress) : Prop where
  total : counts.total = fields.length
  required : counts.required = fields.countP (·.required)
  submitted : counts.submitted = fields.countP (·.submitted)
  complete : counts.complete = fields.countP (·.state == .complete)
  incomplete : counts.incomplete = fields.countP (·.state == .incomplete)
  invalid : counts.invalid = fields.countP (·.state == .invalid)
  emptyRequired : counts.emptyRequired = fields.countP fun field =>
    field.state == .empty && field.required
  emptyOptional : counts.emptyOptional = fields.countP fun field =>
    field.state == .empty && !field.required
  answered : counts.answered = fields.countP (·.responseState == .answered)
  skipped : counts.skipped = fields.countP (·.responseState == .skipped)
  aborted : counts.aborted = fields.countP (·.responseState == .aborted)

theorem tallies_ofFields (fields : List FieldProgress) : (ofFields fields).Tallies fields where
  total := ofFields_total fields
  required := ofFields_required fields
  submitted := ofFields_submitted fields
  complete := ofFields_complete fields
  incomplete := ofFields_incomplete fields
  invalid := ofFields_invalid fields
  emptyRequired := ofFields_emptyRequired fields
  emptyOptional := ofFields_emptyOptional fields
  answered := ofFields_answered fields
  skipped := ofFields_skipped fields
  aborted := ofFields_aborted fields

namespace Tallies

variable {counts : ProgressCounts} {fields others : List FieldProgress}

/-- The order of the fields does not matter. -/
theorem perm (tallies : counts.Tallies fields) (same : fields.Perm others) :
    counts.Tallies others where
  total := tallies.total.trans same.length_eq
  required := tallies.required.trans (same.countP_eq _)
  submitted := tallies.submitted.trans (same.countP_eq _)
  complete := tallies.complete.trans (same.countP_eq _)
  incomplete := tallies.incomplete.trans (same.countP_eq _)
  invalid := tallies.invalid.trans (same.countP_eq _)
  emptyRequired := tallies.emptyRequired.trans (same.countP_eq _)
  emptyOptional := tallies.emptyOptional.trans (same.countP_eq _)
  answered := tallies.answered.trans (same.countP_eq _)
  skipped := tallies.skipped.trans (same.countP_eq _)
  aborted := tallies.aborted.trans (same.countP_eq _)

/-- Complete, incomplete and invalid fields are those that are not empty. -/
theorem worked (tallies : counts.Tallies fields) :
    counts.complete + counts.incomplete + counts.invalid =
      fields.countP fun field => !(field.state == .empty) := by
  rw [tallies.complete, tallies.incomplete, tallies.invalid, countP_add_countP, countP_add_countP]
  · refine List.countP_congr fun field _ => ?_
    cases field.state <;> simp
  · intro field
    cases field.state <;> simp
  · intro field
    cases field.state <;> simp

theorem empty (tallies : counts.Tallies fields) :
    counts.emptyRequired + counts.emptyOptional = fields.countP (·.state == .empty) := by
  rw [tallies.emptyRequired, tallies.emptyOptional, countP_add_countP]
  · refine List.countP_congr fun field _ => ?_
    cases field.required <;> simp
  · intro field
    cases field.required <;> simp

/-- Every field is in one of the states. -/
theorem states (tallies : counts.Tallies fields) :
    counts.complete + counts.incomplete + counts.invalid + counts.emptyRequired +
      counts.emptyOptional = counts.total := by
  rw [Nat.add_assoc, tallies.worked, tallies.empty, tallies.total, countP_add_countP]
  · exact List.countP_eq_length.mpr fun field _ => Bool.not_or_self _
  · exact fun field => (Bool.not_eq_true' _).mp

theorem emptyRequired_le (tallies : counts.Tallies fields) :
    counts.emptyRequired ≤ counts.required := by
  rw [tallies.emptyRequired, tallies.required]
  exact List.countP_mono_left fun field _ both => ((Bool.and_eq_true _ _).mp both).2

theorem addressed (tallies : counts.Tallies fields) :
    counts.answered + counts.skipped = fields.countP fun field =>
      field.responseState == .answered || field.responseState == .skipped := by
  rw [tallies.answered, tallies.skipped]
  refine countP_add_countP fun field => ?_
  cases field.responseState <;> simp

/-- A response stands in one place, and it may be unanswered. -/
theorem responses_le (tallies : counts.Tallies fields) :
    counts.answered + counts.skipped + counts.aborted ≤ counts.total := by
  rw [tallies.addressed, tallies.aborted, tallies.total, countP_add_countP]
  · exact List.countP_le_length
  · intro field
    cases field.responseState <;> simp

/-- The form is finished when no field needs work, and once one is skipped, when each is answered or
skipped. -/
theorem isComplete_iff (tallies : counts.Tallies fields) : counts.isComplete = true ↔
    (∀ field ∈ fields, field.state ≠ .invalid ∧ field.state ≠ .incomplete ∧
      ¬ (field.state = .empty ∧ field.required = true)) ∧
    ((∀ field ∈ fields, field.responseState ≠ .skipped) ∨
      ∀ field ∈ fields, field.responseState = .answered ∨ field.responseState = .skipped) := by
  rw [ProgressCounts.isComplete_iff, formState_eq_complete_iff, tallies.addressed, tallies.total,
    tallies.invalid, tallies.incomplete, tallies.emptyRequired, tallies.skipped,
    List.countP_eq_zero, List.countP_eq_zero, List.countP_eq_zero, List.countP_eq_zero,
    List.countP_eq_length]
  simp only [beq_iff_eq, Bool.and_eq_true, Bool.or_eq_true, ← forall_and, ne_eq]

end Tallies

end ProgressCounts

/-- The counts of a summary tell about the entries of the fields, of which there is one for each
field of the form. -/
structure ProgressSummary.IsExact (schema : FormSchema) (summary : ProgressSummary) : Prop where
  listed : summary.fields.keys.Perm (schema.fields.map (·.id))
  total : summary.counts.total = summary.fields.size
  fieldCount : summary.counts.total = summary.structured.fieldCount
  tallies : summary.counts.Tallies summary.fields.values
  states : summary.counts.complete + summary.counts.incomplete + summary.counts.invalid +
    summary.counts.emptyRequired + summary.counts.emptyOptional = summary.counts.total
  submitted : summary.counts.submitted =
    summary.counts.complete + summary.counts.incomplete + summary.counts.invalid
  required : summary.counts.emptyRequired ≤ summary.counts.required
  responses : summary.counts.answered + summary.counts.skipped + summary.counts.aborted ≤
    summary.counts.total
  /-- The form is finished when no field needs work, and once one is skipped, when each is answered
  or skipped. -/
  finished : summary.counts.isComplete = true ↔
    (∀ progress ∈ summary.fields.values, progress.state ≠ .invalid ∧
      progress.state ≠ .incomplete ∧
      ¬ (progress.state = .empty ∧ progress.required = true)) ∧
    ((∀ progress ∈ summary.fields.values, progress.responseState ≠ .skipped) ∨
      ∀ progress ∈ summary.fields.values,
        progress.responseState = .answered ∨ progress.responseState = .skipped)

/-- A field is submitted unless its state is empty. -/
theorem submitted_eq (field : FieldDefinition) (response : FieldResponse) (issues : List Issue)
    (outside : Bool) :
    let progress := fieldProgress field response issues outside
    progress.submitted = !(progress.state == .empty) := by
  simp only [fieldProgress]
  split_ifs <;> simp_all

section Summaries

variable {schema : FormSchema}

theorem submitted_summarise (responses : Responses) (issues : List Issue) (skipped : List String) :
    let counts := (summarise schema responses issues skipped).counts
    counts.submitted = counts.complete + counts.incomplete + counts.invalid := by
  intro counts
  have tallies : counts.Tallies ((progressList schema responses issues skipped).map (·.2)) :=
    ProgressCounts.tallies_ofFields _
  rw [tallies.worked, tallies.submitted]
  refine List.countP_congr fun progress member => ?_
  simp only [progressList, List.map_map, List.mem_map, Function.comp_apply] at member
  obtain ⟨field, _, rfl⟩ := member
  rw [submitted_eq]

/-- The counts of a form are exact tallies of the entries of its fields. -/
theorem isExact_summarise (distinct : (schema.fields.map (·.id)).Nodup) (responses : Responses)
    (issues : List Issue) (skipped : List String) :
    (summarise schema responses issues skipped).IsExact schema := by
  have keys := keys_progressList schema responses issues skipped
  have distinctKeys : ((progressList schema responses issues skipped).map (·.1)).Nodup := by
    rwa [keys]
  have tallies : (summarise schema responses issues skipped).counts.Tallies
      (summarise schema responses issues skipped).fields.values :=
    (ProgressCounts.tallies_ofFields _).perm (Dict.values_ofList distinctKeys).symm
  exact {
    listed := keys ▸ Dict.keys_ofList distinctKeys
    total := tallies.total.trans (List.length_map _)
    fieldCount := by
      simp [summarise, ProgressCounts.ofFields_total, progressList, FormSchema.summary]
    tallies
    states := tallies.states
    submitted := submitted_summarise responses issues skipped
    required := tallies.emptyRequired_le
    responses := tallies.responses_le
    finished := tallies.isComplete_iff }

end Summaries

/-- A form that asks for names and chores. -/
def household : FormSchema :=
  ⟨"household", none, [⟨none, none, [nameField "first", nameField "middle", nameField "last"]⟩,
    ⟨some "more", none, [chores, { nameField "nickname" with required := false }]⟩]⟩

/-- Each of the five fields is in a state of its own. -/
theorem isExact_household :
    let responses : Responses := .ofList [("first", .answered (.string (some "Ada"))),
      ("last", .answered (.string (some "O"))), ("nickname", .aborted none),
      ("chores", .answered (.checkboxes (.ofList [("dishes", .done), ("laundry", .active)])))]
    let summary := summarise household responses (validateForm household responses) ["middle"]
    summary.IsExact household ∧
      summary.counts = {
        total := 5, required := 3, submitted := 3, complete := 1, incomplete := 1, invalid := 1,
        emptyRequired := 1, emptyOptional := 1, answered := 3, skipped := 1, aborted := 1 } ∧
      summary.counts.isComplete = false := by
  intro responses summary
  have distinct : (household.fields.map (·.id)).Nodup := by decide
  exact ⟨isExact_summarise distinct responses _ ["middle"], by decide +kernel, by decide +kernel⟩

end DocForm
