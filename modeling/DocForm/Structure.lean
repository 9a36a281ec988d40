import DocForm.Schema

/-! The shape of a form apart from its answers: how many parts it has, and a lookup of
options and columns by qualified name. -/

namespace DocForm

def qualifiedName (fieldId id : String) : String := fieldId ++ "." ++ id

structure Structure where
  groupCount : Nat
  fieldCount : Nat
  optionCount : Nat
  columnCount : Nat
  /-- How many fields there are of each kind that occurs. -/
  fieldsByKind : List (FieldKind × Nat)
  fieldKinds : Dict FieldKind
  qualifiedOptions : Dict FieldKind
  qualifiedColumns : Dict ColumnType

inductive Qualified where
  | option (kind : FieldKind)
  | column (type : ColumnType)
deriving DecidableEq, Repr

/-- How often each member of a list occurs, without those that do not. -/
def tally {α : Type} [BEq α] (members found : List α) : List (α × Nat) :=
  (members.map fun member => (member, found.count member)).filter fun entry => entry.2 ≠ 0

namespace FieldDefinition

def qualifiedOptions (field : FieldDefinition) : List (String × FieldKind) :=
  field.options.map fun option => (qualifiedName field.id option.id, field.kind)

def qualifiedColumns (field : FieldDefinition) : List (String × ColumnType) :=
  field.columns.map fun column => (qualifiedName field.id column.id, column.type)

end FieldDefinition

namespace FormSchema

def summary (schema : FormSchema) : Structure :=
  let fields := schema.fields
  let options := fields.flatMap FieldDefinition.qualifiedOptions
  let columns := fields.flatMap FieldDefinition.qualifiedColumns
  { groupCount := schema.groups.length
    fieldCount := fields.length
    optionCount := options.length
    columnCount := columns.length
    fieldsByKind := tally FieldKind.all (fields.map (·.kind))
    fieldKinds := .ofList (fields.map fun field => (field.id, field.kind))
    qualifiedOptions := .ofList options
    qualifiedColumns := .ofList columns }

end FormSchema

/-- What a qualified name stands for; an option goes before a column. -/
def Structure.lookup? (structured : Structure) (name : String) : Option Qualified :=
  (structured.qualifiedOptions.get? name).map .option <|>
    (structured.qualifiedColumns.get? name).map .column

end DocForm
