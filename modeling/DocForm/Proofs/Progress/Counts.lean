import DocForm.Progress
import Mathlib.Tactic.SplitIfs

/-! What the counts of a form say about its fields. Main statement: a count is the number of the
fields that it counts. -/

namespace DocForm

namespace ProgressCounts

theorem count_foldl_add (count : ProgressCounts → Nat) (counted : FieldProgress → Bool)
    (step : ∀ counts field, count (add counts field) = count counts + if counted field then 1 else 0)
    (fields : List FieldProgress) (start : ProgressCounts) :
    count (fields.foldl add start) = count start + fields.countP counted := by
  induction fields generalizing start with
  | nil => rfl
  | cons field rest ih =>
    rw [List.foldl_cons, ih, step, List.countP_cons]
    omega

/-- A count that grows by one with each field of some sort is the number of such fields. -/
theorem count_ofFields (count : ProgressCounts → Nat) (counted : FieldProgress → Bool)
    (start : count {} = 0)
    (step : ∀ counts field, count (add counts field) = count counts + if counted field then 1 else 0)
    (fields : List FieldProgress) : count (ofFields fields) = fields.countP counted := by
  rw [ofFields, count_foldl_add count counted step, start, Nat.zero_add]

variable (fields : List FieldProgress)

theorem ofFields_total : (ofFields fields).total = fields.length := by
  rw [count_ofFields total (fun _ => true) rfl (fun _ _ => rfl), List.countP_true]

theorem ofFields_required : (ofFields fields).required = fields.countP (·.required) :=
  count_ofFields required _ rfl (fun _ _ => rfl) fields

theorem ofFields_submitted : (ofFields fields).submitted = fields.countP (·.submitted) :=
  count_ofFields submitted _ rfl (fun _ _ => rfl) fields

theorem ofFields_answered :
    (ofFields fields).answered = fields.countP fun field => field.responseState == .answered :=
  count_ofFields answered _ rfl (fun _ _ => rfl) fields

theorem ofFields_skipped :
    (ofFields fields).skipped = fields.countP fun field => field.responseState == .skipped :=
  count_ofFields skipped _ rfl (fun _ _ => rfl) fields

theorem ofFields_aborted :
    (ofFields fields).aborted = fields.countP fun field => field.responseState == .aborted :=
  count_ofFields aborted _ rfl (fun _ _ => rfl) fields

theorem ofFields_complete :
    (ofFields fields).complete = fields.countP fun field => field.state == .complete :=
  count_ofFields complete _ rfl (fun _ _ => rfl) fields

theorem ofFields_incomplete :
    (ofFields fields).incomplete = fields.countP fun field => field.state == .incomplete :=
  count_ofFields incomplete _ rfl (fun _ _ => rfl) fields

theorem ofFields_invalid :
    (ofFields fields).invalid = fields.countP fun field => field.state == .invalid :=
  count_ofFields invalid _ rfl (fun _ _ => rfl) fields

theorem ofFields_emptyRequired : (ofFields fields).emptyRequired =
    fields.countP fun field => field.state == .empty && field.required :=
  count_ofFields emptyRequired _ rfl (fun _ _ => rfl) fields

theorem ofFields_emptyOptional : (ofFields fields).emptyOptional =
    fields.countP fun field => field.state == .empty && !field.required :=
  count_ofFields emptyOptional _ rfl (fun _ _ => rfl) fields

variable {counts : ProgressCounts}

theorem formState_eq_invalid_iff : counts.formState = .invalid ↔ 0 < counts.invalid := by
  unfold formState
  split_ifs <;> simp_all

theorem formState_eq_complete_iff : counts.formState = .complete ↔
    counts.invalid = 0 ∧ counts.incomplete = 0 ∧ counts.emptyRequired = 0 := by
  unfold formState
  split_ifs <;> simp only [true_iff, false_iff] <;> omega

theorem isComplete_iff : counts.isComplete = true ↔
    counts.formState = .complete ∧
      (counts.skipped = 0 ∨ counts.answered + counts.skipped = counts.total) := by
  rw [formState_eq_complete_iff]
  simp [isComplete, and_assoc]

/-- A finished form has no field that is invalid, and none that is required and empty. -/
theorem eq_zero_of_complete (complete : counts.formState = .complete ∨ counts.isComplete = true) :
    counts.invalid = 0 ∧ counts.emptyRequired = 0 := by
  have finished : counts.formState = .complete :=
    complete.elim id fun complete => (isComplete_iff.mp complete).1
  obtain ⟨invalid, _, missing⟩ := formState_eq_complete_iff.mp finished
  exact ⟨invalid, missing⟩

end ProgressCounts

end DocForm
