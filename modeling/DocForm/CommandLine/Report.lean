import DocForm.Progress
import DocForm.Reference.Resolve
import DocForm.Validation.Field
import DocForm.Json.Writer
import DocForm.Wire.Issue
import DocForm.Wire.Progress

/-! What the program prints about a form: the outcome of a check, and the meaning of a
reference. -/

namespace DocForm.CommandLine

structure Report where
  file : String
  form : String
  counts : ProgressCounts
  issues : List Issue

namespace Report

/-- Check a form; `skipped` fields count as skipped whatever the document says. -/
def ofForm (file : String) (form : ParsedForm) (skipped : List String) : Report :=
  let issues := validateForm form.schema form.responses
  let summary := summarise form.schema form.responses issues skipped
  ⟨file, form.schema.id, summary.counts, issues⟩

def hasErrors (report : Report) : Bool := report.issues.any Issue.isError

def toJson (report : Report) : Json :=
  .obj [("file", .str report.file), ("form", .str report.form),
    ("state", .str report.counts.formState.name), ("complete", .bool report.counts.isComplete),
    ("counts", report.counts.toJson), ("issues", .arr (report.issues.map Issue.toJson))]

/-- A line that sums the form up, and a line for each issue. -/
def lines (report : Report) : List String :=
  let file := report.file
  let form := report.form
  let counts := report.counts
  let state := counts.formState.name
  let complete := counts.complete
  let total := counts.total
  let answered := counts.answered
  let skipped := counts.skipped
  let aborted := counts.aborted
  let heading := s!"{file}: form '{form}' is {state} ({complete} of {total} fields complete, "
  let rest := s!"{answered} answered, {skipped} skipped, {aborted} aborted)"
  (heading ++ rest) :: report.issues.map fun issue =>
    "  " ++ issue.severity.name ++ ": " ++ issue.describe

end Report

def describeReference : Reference → String
  | .field fieldId => s!"field {fieldId}"
  | .option fieldId optionId => s!"option {optionId} of {fieldId}"
  | .column fieldId columnId => s!"column {columnId} of {fieldId}"
  | .cell fieldId columnId row => s!"cell {columnId}[{row}] of {fieldId}"

end DocForm.CommandLine
