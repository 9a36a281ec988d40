import DocForm.Dict
import DocForm.Decimal.Layout
import DocForm.Field.Kind
import DocForm.Field.Checkbox

/-! Answers: the four states of a response, and the values that fields and table cells
hold. -/

namespace DocForm

inductive ResponseState where
  | unanswered
  | answered
  | skipped
  | aborted
deriving DecidableEq, Repr, Inhabited

def ResponseState.name : ResponseState → String
  | .unanswered => "unanswered"
  | .answered => "answered"
  | .skipped => "skipped"
  | .aborted => "aborted"

/-- A response to a field or to a table cell. Only an answer carries a value. -/
inductive Response (α : Type) where
  | unanswered
  | answered (value : α)
  | skipped (reason : Option String)
  | aborted (reason : Option String)
deriving DecidableEq, Repr, Inhabited

namespace Response

variable {α : Type}

def state : Response α → ResponseState
  | .unanswered => .unanswered
  | .answered _ => .answered
  | .skipped _ => .skipped
  | .aborted _ => .aborted

def value? : Response α → Option α
  | .answered value => some value
  | _ => none

def reason? : Response α → Option String
  | .skipped reason | .aborted reason => reason
  | _ => none

end Response

inductive CellValue where
  | integer (value : Int)
  | number (value : Float)
  | text (value : String)
deriving DecidableEq

def CellValue.describe : CellValue → String
  | .integer value => toString value
  | .number value => Decimal.Layout.prose.render value
  | .text value => value

abbrev CellResponse := Response CellValue

/-- A table row: a response for each column id. -/
abbrev TableRow := Dict CellResponse

inductive FieldValue where
  | string (value : Option String)
  | number (value : Option Float)
  | stringList (items : List String)
  | singleSelect (selected : Option String)
  | multiSelect (selected : List String)
  | checkboxes (values : Dict CheckboxState)
  | url (value : Option String)
  | urlList (items : List String)
  | date (value : Option String)
  | year (value : Option Int)
  | table (rows : List TableRow)
deriving DecidableEq

abbrev FieldResponse := Response FieldValue

namespace FieldValue

def kind : FieldValue → FieldKind
  | .string _ => .string
  | .number _ => .number
  | .stringList _ => .stringList
  | .singleSelect _ => .singleSelect
  | .multiSelect _ => .multiSelect
  | .checkboxes _ => .checkboxes
  | .url _ => .url
  | .urlList _ => .urlList
  | .date _ => .date
  | .year _ => .year
  | .table _ => .table

/-- A value that holds no answer. Checkboxes hold none while every option is in the
initial state of the mode, which is `multi` when none is given. -/
def isEmpty (mode : Option CheckboxMode) : FieldValue → Bool
  | .string value | .url value | .date value => value.isNone
  | .number value => value.isNone
  | .year value => value.isNone
  | .stringList items | .urlList items => items.isEmpty
  | .singleSelect selected => selected.isNone
  | .multiSelect selected => selected.isEmpty
  | .checkboxes values =>
    values.values.all fun state => state = CheckboxState.initial (mode.getD .multi)
  | .table rows => rows.isEmpty

/-- The texts that somebody typed: a lone text or the items of a list. -/
def texts : FieldValue → List String
  | .string value | .url value | .date value => value.toList
  | .stringList items | .urlList items => items
  | _ => []

end FieldValue

end DocForm
