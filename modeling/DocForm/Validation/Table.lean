import DocForm.Field.Definition
import DocForm.Table.Cell
import DocForm.Validation.Issue

/-! Checking a table: first the number of rows, then every cell, row by row. -/

namespace DocForm

/-- The least number of rows. A required table needs one even if no bound is declared. -/
def TableLimits.leastRows? (limits : TableLimits) (required : Bool) : Option Nat :=
  limits.minRows <|> if required then some 1 else none

def rowsText (count : Nat) : String := if count = 1 then "1 row" else s!"{count} rows"

def checkRowCount (fieldId : String) (required : Bool) (limits : TableLimits) (count : Nat) :
    List Issue :=
  let rows := rowsText count
  let tooFew := match limits.leastRows? required with
    | none => []
    | some least => Issue.errorIf (count < least) .minRowsNotMet (.field fieldId)
        s!"Table has {rows} but requires at least {least}"
  let tooMany := match limits.maxRows with
    | none => []
    | some most => Issue.errorIf (most < count) .maxRowsExceeded (.field fieldId)
        s!"Table has {rows} but allows at most {most}"
  tooFew ++ tooMany

/-- The issue with one cell, if there is one. A skipped or aborted cell always passes. -/
def checkCell (fieldId : String) (row : Nat) (cells : TableRow) (column : TableColumn) :
    List Issue :=
  let id := column.id
  let cell := Reference.cell fieldId id row
  match cells.get? id with
  | none => [⟨.cellMissing, .error, s!"Row {row} has no cell for column '{id}'", cell⟩]
  | some .unanswered =>
    [⟨.cellEmpty, .error, s!"Row {row}, column '{id}' must be answered, skipped or aborted", cell⟩]
  | some (.answered value) =>
    match coerceCell value column.type with
    | .ok _ => []
    | .error misfit =>
      let reason := misfit.message
      [⟨.cellTypeMismatch, .error, s!"Row {row}, column '{id}': {reason}", cell⟩]
  | some (.skipped _) | some (.aborted _) => []

/-- Issues with the cells of rows that are counted from `row` on. -/
def checkRows (fieldId : String) (columns : List TableColumn) (row : Nat) :
    List TableRow → List Issue
  | [] => []
  | cells :: rest =>
    columns.flatMap (checkCell fieldId row cells) ++ checkRows fieldId columns (row + 1) rest

def validateTable (fieldId : String) (required : Bool) (limits : TableLimits)
    (rows : List TableRow) : List Issue :=
  checkRowCount fieldId required limits rows.length ++ checkRows fieldId limits.columns 0 rows

end DocForm
