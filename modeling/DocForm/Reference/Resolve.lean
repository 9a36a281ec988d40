import DocForm.Reference.Basic
import DocForm.Schema

/-! What a reference points at in a form. A reference to an option of a table is one to
its column; a row index is checked when the number of rows is known. -/

namespace DocForm

inductive ReferenceError where
  | format (text : String) (fault : Reference.FormatFault)
  | unknownField (fieldId : String)
  | unknownOption (fieldId optionId : String) (valid : List String)
  | notSelectableOrTable (fieldId : String) (kind : FieldKind)
  | notTable (fieldId : String) (kind : FieldKind)
  | unknownColumn (fieldId columnId : String) (valid : List String)
  | outOfBounds (fieldId : String) (row rows : Nat)
deriving DecidableEq, Repr

def ReferenceError.message : ReferenceError → String
  | .format text fault =>
    let reason := fault.message
    s!"Invalid scope reference format '{text}': {reason}"
  | .unknownField fieldId => s!"Unknown field '{fieldId}'"
  | .unknownOption fieldId optionId valid =>
    let ids := ", ".intercalate valid
    s!"Unknown option '{optionId}' for field '{fieldId}'. Valid options: {ids}"
  | .notSelectableOrTable fieldId kind =>
    let kindName := kind.name
    s!"Field '{fieldId}' is {kindName}, not selectable or table"
  | .notTable fieldId kind =>
    let kindName := kind.name
    s!"Field '{fieldId}' is {kindName}, not a table"
  | .unknownColumn fieldId columnId valid =>
    let ids := ", ".intercalate valid
    s!"Unknown column '{columnId}' for field '{fieldId}'. Valid columns: {ids}"
  | .outOfBounds fieldId row rows =>
    s!"Row index {row} out of bounds for '{fieldId}' ({rows} rows)"

namespace Reference

/-- Read a reference; the error carries the whole text. -/
def parse (text : String) : Except ReferenceError Reference :=
  match read text with
  | .ok reference => .ok reference
  | .error fault => .error (.format text fault)

abbrev RowCounts := Dict Nat

/-- The rows that the responses hold now; a table without an answer has none. -/
def rowCounts (schema : FormSchema) (responses : Responses) : RowCounts :=
  .ofList (schema.tables.map fun table =>
    (table.id, match (responseTo responses table.id).value? with
      | some (.table rows) => rows.length
      | _ => 0))

def tableWith (target : FieldDefinition) (columnId : String) :
    Except ReferenceError TableLimits :=
  match target.constraints.table? with
  | none => .error (.notTable target.id target.kind)
  | some table =>
    if (table.column? columnId).isSome then .ok table
    else .error (.unknownColumn target.id columnId table.columnIds)

/-- Resolve a reference against a form. Without row counts no row is out of bounds. -/
def resolve (schema : FormSchema) (rowCounts : Option RowCounts) (reference : Reference) :
    Except ReferenceError Reference :=
  match schema.field? reference.fieldId with
  | none => .error (.unknownField reference.fieldId)
  | some target =>
    match reference with
    | .field _ => .ok reference
    | .option fieldId optionId =>
      match target.constraints.options? with
      | some options =>
        if options.any (·.id == optionId) then .ok reference
        else .error (.unknownOption fieldId optionId (options.map (·.id)))
      | none =>
        if target.kind = .table then do
          let _ ← tableWith target optionId
          .ok (.column fieldId optionId)
        else .error (.notSelectableOrTable fieldId target.kind)
    | .column _ columnId => do
      let _ ← tableWith target columnId
      .ok reference
    | .cell fieldId columnId row => do
      let _ ← tableWith target columnId
      match rowCounts with
      | none => .ok reference
      | some counts =>
        let rows := (counts.get? fieldId).getD 0
        if row < rows then .ok reference else .error (.outOfBounds fieldId row rows)

end Reference

end DocForm
