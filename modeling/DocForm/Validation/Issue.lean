import DocForm.Reference.Basic
import DocForm.Vocabulary

/-! Issues: what is wrong with the answers to a form. -/

namespace DocForm

inductive Severity where
  | error
  | warning
deriving DecidableEq, Repr

def Severity.name : Severity → String
  | .error => "error"
  | .warning => "warning"

instance : Vocabulary Severity := ⟨"severity", [.error, .warning], Severity.name⟩

inductive IssueCode where
  | requiredMissing
  | kindMismatch
  | minLength
  | maxLength
  | patternMismatch
  | invalidPattern
  | minValue
  | maxValue
  | notInteger
  | minItems
  | maxItems
  | itemMinLength
  | itemMaxLength
  | duplicateItem
  | invalidUrl
  | invalidDate
  | unknownOption
  | invalidCheckboxState
  | minSelections
  | maxSelections
  | minDone
  | sentinelValue
  | minRowsNotMet
  | maxRowsExceeded
  | cellMissing
  | cellEmpty
  | cellTypeMismatch
deriving DecidableEq, Repr

namespace IssueCode

def all : List IssueCode :=
  [.requiredMissing, .kindMismatch, .minLength, .maxLength, .patternMismatch, .invalidPattern,
    .minValue, .maxValue, .notInteger, .minItems, .maxItems, .itemMinLength, .itemMaxLength,
    .duplicateItem, .invalidUrl, .invalidDate, .unknownOption, .invalidCheckboxState,
    .minSelections, .maxSelections, .minDone, .sentinelValue, .minRowsNotMet, .maxRowsExceeded,
    .cellMissing, .cellEmpty, .cellTypeMismatch]

def name : IssueCode → String
  | .requiredMissing => "REQUIRED_MISSING"
  | .kindMismatch => "KIND_MISMATCH"
  | .minLength => "MIN_LENGTH"
  | .maxLength => "MAX_LENGTH"
  | .patternMismatch => "PATTERN_MISMATCH"
  | .invalidPattern => "INVALID_PATTERN"
  | .minValue => "MIN_VALUE"
  | .maxValue => "MAX_VALUE"
  | .notInteger => "NOT_INTEGER"
  | .minItems => "MIN_ITEMS"
  | .maxItems => "MAX_ITEMS"
  | .itemMinLength => "ITEM_MIN_LENGTH"
  | .itemMaxLength => "ITEM_MAX_LENGTH"
  | .duplicateItem => "DUPLICATE_ITEM"
  | .invalidUrl => "INVALID_URL"
  | .invalidDate => "INVALID_DATE"
  | .unknownOption => "UNKNOWN_OPTION"
  | .invalidCheckboxState => "INVALID_CHECKBOX_STATE"
  | .minSelections => "MIN_SELECTIONS"
  | .maxSelections => "MAX_SELECTIONS"
  | .minDone => "MIN_DONE"
  | .sentinelValue => "SENTINEL_VALUE"
  | .minRowsNotMet => "MIN_ROWS_NOT_MET"
  | .maxRowsExceeded => "MAX_ROWS_EXCEEDED"
  | .cellMissing => "CELL_MISSING"
  | .cellEmpty => "CELL_EMPTY"
  | .cellTypeMismatch => "CELL_TYPE_MISMATCH"

instance : Vocabulary IssueCode := ⟨"issue code", all, name⟩

end IssueCode

structure Issue where
  code : IssueCode
  severity : Severity
  message : String
  reference : Reference
deriving DecidableEq, Repr

namespace Issue

def isError (issue : Issue) : Bool := issue.severity = .error

def describe (issue : Issue) : String :=
  issue.reference.render ++ " [" ++ issue.code.name ++ "]: " ++ issue.message

def errorIf (condition : Bool) (code : IssueCode) (reference : Reference) (message : String) :
    List Issue :=
  if condition then [⟨code, .error, message, reference⟩] else []

end Issue

end DocForm
