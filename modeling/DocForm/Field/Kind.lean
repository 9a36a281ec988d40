import DocForm.Vocabulary

/-! The kinds of field, the tags they are written with, and the small vocabularies of
their attributes. -/

namespace DocForm

inductive FieldKind where
  | string
  | number
  | stringList
  | singleSelect
  | multiSelect
  | checkboxes
  | url
  | urlList
  | date
  | year
  | table
deriving DecidableEq, Repr, Inhabited

namespace FieldKind

def all : List FieldKind :=
  [.string, .number, .stringList, .singleSelect, .multiSelect, .checkboxes, .url, .urlList,
    .date, .year, .table]

def name : FieldKind → String
  | .string => "string"
  | .number => "number"
  | .stringList => "string_list"
  | .singleSelect => "single_select"
  | .multiSelect => "multi_select"
  | .checkboxes => "checkboxes"
  | .url => "url"
  | .urlList => "url_list"
  | .date => "date"
  | .year => "year"
  | .table => "table"

instance : Vocabulary FieldKind := ⟨"field kind", all, name⟩

def tag : FieldKind → String
  | .string => "string-field"
  | .number => "number-field"
  | .stringList => "string-list"
  | .singleSelect => "single-select"
  | .multiSelect => "multi-select"
  | .checkboxes => "checkboxes"
  | .url => "url-field"
  | .urlList => "url-list"
  | .date => "date-field"
  | .year => "year-field"
  | .table => "table-field"

def ofTag? (tagName : String) : Option FieldKind := all.find? fun kind => kind.tag == tagName

/-- Choosers hold declared options and a choice among them. -/
def isChooser : FieldKind → Bool
  | .singleSelect | .multiSelect | .checkboxes => true
  | _ => false

theorem mem_all (kind : FieldKind) : kind ∈ all := by cases kind <;> decide

@[simp] theorem ofTag?_tag (kind : FieldKind) : ofTag? kind.tag = some kind := by
  cases kind <;> decide

end FieldKind

inductive Priority where
  | high
  | medium
  | low
deriving DecidableEq, Repr, Inhabited

def Priority.name : Priority → String
  | .high => "high"
  | .medium => "medium"
  | .low => "low"

instance : Vocabulary Priority := ⟨"priority", [.high, .medium, .low], Priority.name⟩

/-- Whether a set of checkboxes gates what follows it. -/
inductive ApprovalMode where
  | none
  | blocking
deriving DecidableEq, Repr, Inhabited

def ApprovalMode.name : ApprovalMode → String
  | .none => "none"
  | .blocking => "blocking"

instance : Vocabulary ApprovalMode := ⟨"approval mode", [.none, .blocking], ApprovalMode.name⟩

inductive ColumnType where
  | string
  | number
  | url
  | date
  | year
deriving DecidableEq, Repr, Inhabited

def ColumnType.name : ColumnType → String
  | .string => "string"
  | .number => "number"
  | .url => "url"
  | .date => "date"
  | .year => "year"

instance : Vocabulary ColumnType :=
  ⟨"column type", [.string, .number, .url, .date, .year], ColumnType.name⟩

end DocForm
