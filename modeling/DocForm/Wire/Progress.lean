import DocForm.Progress
import DocForm.Wire.Answer

/-! Structure and progress of a form as JSON. -/

namespace DocForm

def tallyToJson {α : Type} [Vocabulary α] (counts : List (α × Nat)) : Json :=
  .obj (counts.map fun entry => (Vocabulary.word entry.1, .ofCount entry.2))

namespace Structure

def toJson (structured : Structure) : Json :=
  .obj [("group_count", .ofCount structured.groupCount),
    ("field_count", .ofCount structured.fieldCount),
    ("option_count", .ofCount structured.optionCount),
    ("column_count", .ofCount structured.columnCount),
    ("fields_by_kind", tallyToJson structured.fieldsByKind),
    ("field_kinds", structured.fieldKinds.toJson Vocabulary.toJson),
    ("qualified_options", structured.qualifiedOptions.toJson Vocabulary.toJson),
    ("qualified_columns", structured.qualifiedColumns.toJson Vocabulary.toJson)]

end Structure

namespace FieldProgress

def toJson (field : FieldProgress) : Json :=
  .obj ([("kind", Vocabulary.toJson field.kind), ("required", .bool field.required),
      ("submitted", .bool field.submitted), ("state", .str field.state.name),
      ("response_state", .str field.responseState.name),
      ("issue_count", .ofCount field.issueCount)] ++
    Json.ifSome "checkbox_progress" tallyToJson field.checkboxes)

end FieldProgress

namespace ProgressCounts

def toJson (counts : ProgressCounts) : Json :=
  .obj [("total", .ofCount counts.total), ("required", .ofCount counts.required),
    ("submitted", .ofCount counts.submitted), ("complete", .ofCount counts.complete),
    ("incomplete", .ofCount counts.incomplete), ("invalid", .ofCount counts.invalid),
    ("empty_required", .ofCount counts.emptyRequired),
    ("empty_optional", .ofCount counts.emptyOptional), ("answered", .ofCount counts.answered),
    ("skipped", .ofCount counts.skipped), ("aborted", .ofCount counts.aborted)]

/-- Counts that are not given are zero. -/
def ofJson? (json : Json) : Option ProgressCounts := do
  let members ← json.members?
  let count (name : String) : Option Nat := members.defaulted name Json.count? 0
  return {
    total := ← count "total"
    required := ← count "required"
    submitted := ← count "submitted"
    complete := ← count "complete"
    incomplete := ← count "incomplete"
    invalid := ← count "invalid"
    emptyRequired := ← count "empty_required"
    emptyOptional := ← count "empty_optional"
    answered := ← count "answered"
    skipped := ← count "skipped"
    aborted := ← count "aborted" }

end ProgressCounts

end DocForm
