import DocForm.Calendar
import DocForm.Decimal.Layout
import DocForm.Pattern.Match
import DocForm.Pattern.Reader
import DocForm.Schema
import DocForm.Sentinel
import DocForm.Validation.Table
import DocForm.Web.Address

/-! Checking the response to a field against its declaration. Every problem becomes an
issue, so all of them are seen at once. -/

namespace DocForm

namespace FieldDefinition

def errorIf (field : FieldDefinition) (condition : Bool) (code : IssueCode) (message : String) :
    List Issue :=
  Issue.errorIf condition code (.field field.id) message

def checkBound {α : Type} (field : FieldDefinition) (code : IssueCode) (bound : Option α)
    (broken : α → Bool) (message : α → String) : List Issue :=
  match bound with
  | none => []
  | some bound => field.errorIf (broken bound) code (message bound)

/-- A text that looks like a sentinel was perhaps meant as one. -/
def checkSentinel (field : FieldDefinition) (text : String) : List Issue :=
  if (Sentinel.detect? text).isSome then
    [⟨.sentinelValue, .warning,
      s!"Value '{text}' looks like a sentinel; write %SKIP% or %ABORT% on its own",
      .field field.id⟩]
  else []

def checkLength (field : FieldDefinition) (limits : StringLimits) (text : String) : List Issue :=
  let length := text.length
  field.checkBound .minLength limits.minLength (fun min => length < min)
      (fun min => s!"Value has {length} characters but requires at least {min}") ++
    field.checkBound .maxLength limits.maxLength (fun max => max < length)
      (fun max => s!"Value has {length} characters but allows at most {max}")

/-- A text has to match its pattern, if that is a pattern at all. What is wrong with one that is not
is left out of the message: the words for it are those of the library that reads patterns. -/
def checkPattern (field : FieldDefinition) (pattern text : String) : List Issue :=
  match Pattern.ofString? pattern with
  | none => field.errorIf true .invalidPattern
      s!"Pattern '{pattern}' is not a valid regular expression"
  | some expected => field.errorIf (!expected.isFoundIn text) .patternMismatch
      s!"Value does not match pattern '{pattern}'"

def checkRange (field : FieldDefinition) (value : Float) (min max : Option Float) : List Issue :=
  let shown := Decimal.Layout.prose.render
  let valueText := shown value
  field.checkBound .minValue min (fun min => value < min) (fun min =>
      let minText := shown min
      s!"Value {valueText} is less than the minimum {minText}") ++
    field.checkBound .maxValue max (fun max => max < value) (fun max =>
      let maxText := shown max
      s!"Value {valueText} is greater than the maximum {maxText}")

def checkInteger (field : FieldDefinition) (integer : Bool) (value : Float) : List Issue :=
  let valueText := Decimal.Layout.prose.render value
  field.errorIf (integer && !Decimal.isWhole value) .notInteger
    s!"Value {valueText} must be an integer"

def checkItemLength (field : FieldDefinition) (limits : ListLimits) (item : String) :
    List Issue :=
  let length := item.length
  field.checkBound .itemMinLength limits.itemMinLength (fun min => length < min)
      (fun min => s!"Item '{item}' has {length} characters but requires at least {min}") ++
    field.checkBound .itemMaxLength limits.itemMaxLength (fun max => max < length)
      (fun max => s!"Item '{item}' has {length} characters but allows at most {max}")

/-- Every item that has come before is repeated. -/
def checkRepeats (field : FieldDefinition) (seen : List String) : List String → List Issue
  | [] => []
  | item :: rest =>
    field.errorIf (seen.contains item) .duplicateItem s!"Item '{item}' is repeated" ++
      field.checkRepeats (item :: seen) rest

def checkItems (field : FieldDefinition) (limits : ListLimits) (items : List String) :
    List Issue :=
  let count := items.length
  field.checkBound .minItems limits.minItems (fun min => count < min)
      (fun min => s!"List has {count} items but requires at least {min}") ++
    field.checkBound .maxItems limits.maxItems (fun max => max < count)
      (fun max => s!"List has {count} items but allows at most {max}") ++
    items.flatMap (field.checkItemLength limits) ++
    (if limits.uniqueItems then field.checkRepeats [] items else [])

def checkUrl (field : FieldDefinition) (text : String) : List Issue :=
  field.errorIf (!isHttpUrl text) .invalidUrl s!"'{text}' is not a valid http(s) URL"

/-- A bound that is no date is not checked. -/
def checkDate (field : FieldDefinition) (limits : DateLimits) (text : String) : List Issue :=
  match parseDate? text with
  | none => field.errorIf true .invalidDate s!"'{text}' is not a valid date (expected YYYY-MM-DD)"
  | some date =>
    field.checkBound .minValue limits.min (fun min => (parseDate? min).any date.before)
        (fun min => s!"Date {text} is before the minimum {min}") ++
      field.checkBound .maxValue limits.max
        (fun max => (parseDate? max).any fun bound => bound.before date)
        (fun max => s!"Date {text} is after the maximum {max}")

def checkOption (field : FieldDefinition) (id : String) : List Issue :=
  Issue.errorIf (field.option? id).isNone .unknownOption (.option field.id id)
    s!"'{id}' is not an option of this field"

def checkSelections (field : FieldDefinition) (limits : MultiSelectLimits)
    (selected : List String) : List Issue :=
  let count := selected.length
  selected.flatMap field.checkOption ++
    field.checkBound .minSelections limits.minSelections (fun min => count < min)
      (fun min => s!"{count} options selected but at least {min} are required") ++
    field.checkBound .maxSelections limits.maxSelections (fun max => max < count)
      (fun max => s!"{count} options selected but at most {max} are allowed")

def checkState (field : FieldDefinition) (mode : CheckboxMode) (id : String)
    (state : CheckboxState) : List Issue :=
  let stateName := state.name
  let modeName := mode.name
  field.checkOption id ++
    Issue.errorIf (!state.allowedIn mode) .invalidCheckboxState (.option field.id id)
      s!"State '{stateName}' is not valid for {modeName} checkboxes"

def checkCheckboxes (field : FieldDefinition) (limits : CheckboxLimits)
    (values : Dict CheckboxState) : List Issue :=
  let done := (values.values.filter CheckboxState.isDone).length
  let total := values.size
  values.entries.flatMap (fun entry => field.checkState limits.mode entry.1 entry.2) ++
    field.checkBound .minDone limits.minDone (fun min => done < min)
      (fun min => s!"{done} of {total} options are done but at least {min} are required")

/-- Issues by kind, for a value of the field's own kind. A null value has none. -/
def checkValue (field : FieldDefinition) (value : FieldValue) : List Issue :=
  match field.constraints, value with
  | .string limits, .string (some text) =>
    field.checkLength limits text ++
      (limits.pattern.map fun pattern => field.checkPattern pattern text).getD []
  | .number limits, .number (some number) =>
    field.checkRange number limits.min limits.max ++ field.checkInteger limits.integer number
  | .stringList limits, .stringList items => field.checkItems limits items
  | .urlList limits, .urlList items =>
    field.checkItems limits items ++ items.flatMap field.checkUrl
  | .url _, .url (some text) => field.checkUrl text
  | .date limits, .date (some text) => field.checkDate limits text
  | .year limits, .year (some year) =>
    field.checkRange (Float.ofInt year) (limits.min.map Float.ofInt) (limits.max.map Float.ofInt)
  | .singleSelect _, .singleSelect (some id) => field.checkOption id
  | .multiSelect limits, .multiSelect selected => field.checkSelections limits selected
  | .checkboxes limits, .checkboxes values => field.checkCheckboxes limits values
  | .table limits, .table rows => validateTable field.id field.required limits rows
  | _, _ => []

/-- Issues with an answer. A value of another kind is not looked at any further. -/
def checkAnswer (field : FieldDefinition) (value : FieldValue) : List Issue :=
  if value.kind = field.kind then
    value.texts.flatMap field.checkSentinel ++ field.checkValue value
  else
    let valueKind := value.kind.name
    let fieldKind := field.kind.name
    field.errorIf true .kindMismatch s!"Value is a {valueKind} but the field is a {fieldKind}"

/-- Issues with a field that nobody answered. A required table is one without rows. -/
def checkUnanswered (field : FieldDefinition) : List Issue :=
  match field.constraints with
  | .table limits => if field.required then validateTable field.id true limits [] else []
  | _ =>
    let label := field.label
    field.errorIf field.required .requiredMissing s!"Required field '{label}' has no value"

end FieldDefinition

/-- All issues with the response to a field. Skipped and aborted fields have none. -/
def validateField (field : FieldDefinition) : FieldResponse → List Issue
  | .unanswered => field.checkUnanswered
  | .answered value => field.checkAnswer value
  | .skipped _ | .aborted _ => []

def validateForm (schema : FormSchema) (responses : Responses) : List Issue :=
  schema.fields.flatMap fun field => validateField field (responseTo responses field.id)

end DocForm
