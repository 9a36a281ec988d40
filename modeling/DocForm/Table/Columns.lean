import DocForm.Field.Heading
import DocForm.Text.Split

/-! The columns that the attributes of a table field declare: `columnIds`, and beside them
`columnLabels` and `columnTypes` with one entry for each id. -/

namespace DocForm

variable {α : Type}

/-- The type of a column and whether it is required. -/
abbrev ColumnKind := ColumnType × Bool

def refuseAt (place : Place) (fault : Fault) : Except ParseError α := .error ⟨fault, place⟩

/-- A lone text or a list of texts; anything else in the list is refused. -/
def readTexts (place : Place) (name : String) (value : AttributeValue) :
    Except ParseError (List String) :=
  match value with
  | .text text => .ok [text]
  | .list items => items.mapM fun item =>
    match item.text? with
    | some text => .ok text
    | none => refuseAt place (.invalidValue name item.describe)
  | other => refuseAt place (.invalidValue name other.describe)

def readTextsOf (node : Node) (place : Place) (name : String) :
    Except ParseError (Option (List String)) :=
  match node.attribute? name with
  | none => .ok none
  | some value => do return some (← readTexts place name value)

def readColumnType (place : Place) (text : String) : Except ParseError ColumnType :=
  match Vocabulary.read? (Text.trim text) with
  | some type => .ok type
  | none => refuseAt place (.invalidColumnType text)

/-- An entry of `columnTypes`: the name of a type, or a record with a `type` and perhaps
`required`. -/
def readColumnKind (place : Place) (value : AttributeValue) : Except ParseError ColumnKind :=
  match value with
  | .text text => do return (← readColumnType place text, false)
  | .record parts =>
    match parts.lookup "type" with
    | some (.text text) => do
      let required := match parts.lookup "required" with
        | some (.bool true) => true
        | _ => false
      return (← readColumnType place text, required)
    | _ => refuseAt place (.invalidColumnType value.describe)
  | other => refuseAt place (.invalidColumnType other.describe)

def readColumnKinds (node : Node) (place : Place) :
    Except ParseError (Option (List ColumnKind)) :=
  match node.attribute? "columnTypes" with
  | none => .ok none
  | some (.text text) => do return some [← readColumnKind place (.text text)]
  | some (.list items) => do return some (← items.mapM (readColumnKind place))
  | some other => refuseAt place (.invalidValue "columnTypes" other.describe)

def checkEntries (place : Place) (name : String) (ids : List String) (entries : Option (List α)) :
    Except ParseError Unit :=
  match entries with
  | none => .ok ()
  | some entries =>
    if entries.length = ids.length then .ok ()
    else refuseAt place (.columnCountMismatch name entries.length ids.length)

/-- Ids have to be identifiers and to differ; `taken` are those already seen. -/
def checkIds (place : Place) (taken : List String) : List String → Except ParseError Unit
  | [] => .ok ()
  | id :: rest =>
    if !isIdentifier id then refuseAt place (.invalidId id)
    else if taken.contains id then refuseAt place (.duplicateColumn id)
    else checkIds place (id :: taken) rest

/-- One column for each id. A label defaults to the id, a type to text. -/
def buildColumns (ids : List String) (labels : Option (List String))
    (kinds : Option (List ColumnKind)) : List TableColumn :=
  let labels := (labels.map fun labels => labels.map Text.trim).getD ids
  let kinds := kinds.getD (ids.map fun _ => (ColumnType.string, false))
  List.zipWith (fun id (label, type, required) => ⟨id, label, type, required⟩)
    ids (labels.zip kinds)

/-- The declared columns of a table, or none when its header has to tell. -/
def explicitColumns (node : Node) (place : Place) :
    Except ParseError (Option (List TableColumn)) := do
  match ← readTextsOf node place "columnIds" with
  | none =>
    match ["columnLabels", "columnTypes"].find? node.hasAttribute with
    | some name => refuseAt place (.columnAttributeWithoutIds name)
    | none => return none
  | some [] => refuseAt place (.invalidValue "columnIds" "[]")
  | some written =>
    let ids := written.map Text.trim
    let labels ← readTextsOf node place "columnLabels"
    checkEntries place "columnLabels" ids labels
    let kinds ← readColumnKinds node place
    checkEntries place "columnTypes" ids kinds
    checkIds place [] ids
    return some (buildColumns ids labels kinds)

end DocForm
