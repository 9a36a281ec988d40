import DocForm.Attribute
import DocForm.Field.Kind
import DocForm.Field.Checkbox

/-! What a form declares about a field: its name, what it asks for, and the limits on its
answer. -/

namespace DocForm

structure FieldOption where
  id : String
  label : String
deriving DecidableEq, Repr

structure TableColumn where
  id : String
  label : String
  type : ColumnType
  required : Bool
deriving DecidableEq, Repr

structure Hints where
  placeholder : Option String
  examples : List String
deriving DecidableEq, Repr

structure StringLimits where
  minLength : Option Nat
  maxLength : Option Nat
  pattern : Option String
  hints : Hints
deriving DecidableEq, Repr

structure NumberLimits where
  min : Option Float
  max : Option Float
  integer : Bool
  hints : Hints
deriving DecidableEq

structure ListLimits where
  minItems : Option Nat
  maxItems : Option Nat
  itemMinLength : Option Nat
  itemMaxLength : Option Nat
  uniqueItems : Bool
  hints : Hints
deriving DecidableEq, Repr

structure MultiSelectLimits where
  options : List FieldOption
  minSelections : Option Nat
  maxSelections : Option Nat
deriving DecidableEq, Repr

structure CheckboxLimits where
  options : List FieldOption
  mode : CheckboxMode
  approval : ApprovalMode
  minDone : Option Nat
deriving DecidableEq, Repr

/-- Dates are kept as they are written. -/
structure DateLimits where
  min : Option String
  max : Option String
  hints : Hints
deriving DecidableEq, Repr

structure YearLimits where
  min : Option Int
  max : Option Int
  hints : Hints
deriving DecidableEq, Repr

structure TableLimits where
  columns : List TableColumn
  minRows : Option Nat
  maxRows : Option Nat
deriving DecidableEq, Repr

namespace TableLimits

def column? (limits : TableLimits) (id : String) : Option TableColumn :=
  limits.columns.find? fun column => column.id == id

def columnIds (limits : TableLimits) : List String := limits.columns.map (·.id)

end TableLimits

inductive Constraints where
  | string (limits : StringLimits)
  | number (limits : NumberLimits)
  | stringList (limits : ListLimits)
  | singleSelect (options : List FieldOption)
  | multiSelect (limits : MultiSelectLimits)
  | checkboxes (limits : CheckboxLimits)
  | url (hints : Hints)
  | urlList (limits : ListLimits)
  | date (limits : DateLimits)
  | year (limits : YearLimits)
  | table (limits : TableLimits)
deriving DecidableEq

namespace Constraints

def kind : Constraints → FieldKind
  | .string _ => .string
  | .number _ => .number
  | .stringList _ => .stringList
  | .singleSelect _ => .singleSelect
  | .multiSelect _ => .multiSelect
  | .checkboxes _ => .checkboxes
  | .url _ => .url
  | .urlList _ => .urlList
  | .date _ => .date
  | .year _ => .year
  | .table _ => .table

def options? : Constraints → Option (List FieldOption)
  | .singleSelect options => some options
  | .multiSelect limits => some limits.options
  | .checkboxes limits => some limits.options
  | _ => none

def table? : Constraints → Option TableLimits
  | .table limits => some limits
  | _ => none

def checkboxMode? : Constraints → Option CheckboxMode
  | .checkboxes limits => some limits.mode
  | _ => none

end Constraints

structure FieldDefinition where
  id : String
  label : String
  required : Bool
  priority : Priority
  role : String
  validators : List ValidatorRef
  constraints : Constraints
  line : Option Nat

namespace FieldDefinition

def kind (field : FieldDefinition) : FieldKind := field.constraints.kind

/-- The declared options; only choosers have any. -/
def options (field : FieldDefinition) : List FieldOption := field.constraints.options?.getD []

def option? (field : FieldDefinition) (id : String) : Option FieldOption :=
  field.options.find? fun option => option.id == id

/-- The declared columns; only tables have any. -/
def columns (field : FieldDefinition) : List TableColumn :=
  (field.constraints.table?.map (·.columns)).getD []

def checkboxMode? (field : FieldDefinition) : Option CheckboxMode := field.constraints.checkboxMode?

end FieldDefinition

end DocForm
