import DocForm.Table.Cell
import DocForm.Table.Columns
import DocForm.Table.Slug

/-! Tables written with pipes: a header, perhaps a row of types, a separator, and rows of
cells. -/

namespace DocForm

structure ParsedTable where
  columns : List TableColumn
  rows : List TableRow

/-- The trimmed cells of a line. A pipe at either end is optional. -/
def splitRow (line : String) : List String :=
  (Text.splitOn '|' (Text.dropEnd "|" (Text.dropStart "|" (Text.trim line)))).map Text.trim

/-- Dashes, with a colon allowed at either end. -/
def isSeparatorCell (cell : String) : Bool :=
  let dashes := (Text.dropEnd ":" (Text.dropStart ":" cell)).toList
  !dashes.isEmpty && dashes.all (· == '-')

def isSeparatorRow (cells : List String) (width : Nat) : Bool :=
  cells.length = width && cells.all isSeparatorCell

/-- A cell of a type row: a type, perhaps with `required` after a comma. -/
def typeCell? (cell : String) : Option ColumnKind :=
  match (Text.splitOn ',' cell).map Text.trim with
  | [type] => (Vocabulary.read? type).map fun type => (type, false)
  | [type, "required"] => (Vocabulary.read? type).map fun type => (type, true)
  | _ => none

def typeRow? (cells : List String) (width : Nat) : Option (List ColumnKind) :=
  if cells.length = width then cells.mapM typeCell? else none

/-- A column named by its header; a slug that is no identifier gives way to the position. -/
def inferredId (position : Nat) (label : String) : String :=
  let slug := slugify label
  if isIdentifier slug then slug else s!"col{position}"

/-- The columns that a header names, from a position on. Ids in `taken` are used up. -/
def inferColumns (place : Place) (position : Nat) (taken : List String) :
    List String → Except ParseError (List TableColumn)
  | [] => .ok []
  | label :: rest =>
    let id := inferredId position label
    if taken.contains id then refuseAt place (.duplicateColumn id)
    else do
      return ⟨id, label, .string, false⟩ :: (← inferColumns place (position + 1) (id :: taken) rest)

def withKinds (columns : List TableColumn) (kinds : List ColumnKind) : List TableColumn :=
  List.zipWith (fun column (type, required) => { column with type, required }) columns kinds

def afterSeparator (place : Place) (width : Nat) : List String → Except ParseError (List String)
  | [] => refuseAt place .invalidSeparator
  | separator :: body =>
    if isSeparatorRow (splitRow separator) width then .ok body
    else refuseAt place .invalidSeparator

def inlineColumns (place : Place) :
    List String → Except ParseError (List TableColumn × List String)
  | [] => refuseAt place .missingTableSchema
  | header :: rest => do
    let columns ← inferColumns place 0 [] (splitRow header)
    match rest with
    | [] => refuseAt place .invalidSeparator
    | second :: after =>
      -- A second line that is no row of types has to be the separator itself.
      match typeRow? (splitRow second) columns.length with
      | some kinds =>
        return (withKinds columns kinds, ← afterSeparator place columns.length after)
      | none => return (columns, ← afterSeparator place columns.length (second :: after))

/-- Labels from a header replace the declared ones, unless the header's is empty. -/
def relabel : List TableColumn → List String → List TableColumn
  | column :: columns, label :: labels =>
    (if label.isEmpty then column else { column with label }) :: relabel columns labels
  | columns, _ => columns

/-- Declared columns, and the lines after header and separator. A table without lines has
no rows. -/
def declaredColumns (place : Place) (columns : List TableColumn) (labelled : Bool) :
    List String → Except ParseError (List TableColumn × List String)
  | [] => .ok (columns, [])
  | header :: rest => do
    let labels := splitRow header
    let body ← afterSeparator place labels.length rest
    return (if labelled then columns else relabel columns labels, body)

/-- A cell for each column. Missing cells are blank and surplus ones are left out. -/
def rowCells : List TableColumn → List String → List (String × CellResponse)
  | [], _ => []
  | column :: columns, [] => (column.id, parseCell "" column.type) :: rowCells columns []
  | column :: columns, cell :: cells =>
    (column.id, parseCell cell column.type) :: rowCells columns cells

def parseRow (columns : List TableColumn) (line : String) : TableRow :=
  .ofList (rowCells columns (splitRow line))

/-- Read a table. With declared columns the header only gives labels, and not even those
when labels are declared too. -/
def parseTable (text : Option String) (declared : Option (List TableColumn)) (labelled : Bool)
    (place : Place) : Except ParseError ParsedTable := do
  let lines := Text.lines (text.getD "")
  let (columns, body) ← match declared with
    | some columns => declaredColumns place columns labelled lines
    | none => inlineColumns place lines
  return ⟨columns, body.map (parseRow columns)⟩

end DocForm
