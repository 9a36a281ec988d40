import DocForm.Structure
import DocForm.Validation.Issue

/-! How far along a form is: the progress of each field, and what it adds up to. -/

namespace DocForm

inductive ProgressState where
  | empty
  | invalid
  | incomplete
  | complete
deriving DecidableEq, Repr

def ProgressState.name : ProgressState → String
  | .empty => "empty"
  | .invalid => "invalid"
  | .incomplete => "incomplete"
  | .complete => "complete"

structure FieldProgress where
  kind : FieldKind
  required : Bool
  submitted : Bool
  state : ProgressState
  /-- Where the response stands, with skips from outside the document applied. -/
  responseState : ResponseState
  /-- The number of errors that refer to the field. -/
  issueCount : Nat
  checkboxes : Option (List (CheckboxState × Nat))
deriving DecidableEq, Repr

/-- The response holds a real value. Checkboxes hold one once an option has left the
initial state of the field's mode. -/
def isSubmitted (field : FieldDefinition) (response : FieldResponse) : Bool :=
  match response.value?, field.checkboxMode? with
  | none, _ => false
  | some (.checkboxes values), some mode => values.values.any (· ≠ .initial mode)
  | some value, _ => !value.isEmpty none

theorem isSubmitted_answered (field : FieldDefinition) (value : FieldValue) :
    isSubmitted field (.answered value) = !value.isEmpty field.checkboxMode? := by
  unfold isSubmitted
  cases value with
  | checkboxes values =>
    cases field.checkboxMode? with
    | none => rfl
    | some mode => simp [Response.value?, FieldValue.isEmpty, List.not_all_eq_any_not]
  | _ => cases field.checkboxMode? <;> rfl

/-- Every checkbox has reached a state that needs no more work. A simple checklist needs
none. -/
def checkboxesComplete (mode : CheckboxMode) (values : Dict CheckboxState) : Bool :=
  -- Only the checkboxes that the answer mentions are looked at.
  match mode with
  | .simple => true
  | .explicit => values.values.all (· ≠ .unfilled)
  | .multi => values.values.all fun state =>
      state ≠ .todo && state ≠ .incomplete && state ≠ .active

def isUnfinished (field : FieldDefinition) (response : FieldResponse) : Bool :=
  match response, field.checkboxMode? with
  | .answered (.checkboxes values), some mode => !checkboxesComplete mode values
  | _, _ => false

/-- How many of the declared options are in each state. An option that the response does
not mention is in its initial state. -/
def checkboxTally? (field : FieldDefinition) (response : FieldResponse) :
    Option (List (CheckboxState × Nat)) :=
  field.checkboxMode?.map fun mode =>
    let stateOf (id : String) : CheckboxState :=
      match response.value? with
      | some (.checkboxes values) => (values.get? id).getD (.initial mode)
      | _ => .initial mode
    tally CheckboxState.all (field.options.map fun option => stateOf option.id)

def errorsOf (fieldId : String) (issues : List Issue) : List Issue :=
  issues.filter fun issue => issue.isError && issue.reference.fieldId == fieldId

/-- The progress of a field, given issues of the whole form. -/
def fieldProgress (field : FieldDefinition) (response : FieldResponse) (issues : List Issue)
    (skippedOutside : Bool) : FieldProgress :=
  let submitted := isSubmitted field response
  let issueCount := (errorsOf field.id issues).length
  { kind := field.kind
    required := field.required
    submitted
    state :=
      if !submitted then .empty
      else if 0 < issueCount then .invalid
      else if isUnfinished field response then .incomplete
      else .complete
    responseState := if skippedOutside then .skipped else response.state
    issueCount
    checkboxes := checkboxTally? field response }

structure ProgressCounts where
  total : Nat := 0
  required : Nat := 0
  submitted : Nat := 0
  complete : Nat := 0
  incomplete : Nat := 0
  invalid : Nat := 0
  emptyRequired : Nat := 0
  emptyOptional : Nat := 0
  answered : Nat := 0
  skipped : Nat := 0
  aborted : Nat := 0
deriving DecidableEq, Repr

namespace ProgressCounts

def add (counts : ProgressCounts) (field : FieldProgress) : ProgressCounts :=
  let one (condition : Bool) : Nat := if condition then 1 else 0
  let isEmpty := field.state == .empty
  { total := counts.total + 1
    required := counts.required + one field.required
    submitted := counts.submitted + one field.submitted
    complete := counts.complete + one (field.state == .complete)
    incomplete := counts.incomplete + one (field.state == .incomplete)
    invalid := counts.invalid + one (field.state == .invalid)
    emptyRequired := counts.emptyRequired + one (isEmpty && field.required)
    emptyOptional := counts.emptyOptional + one (isEmpty && !field.required)
    answered := counts.answered + one (field.responseState == .answered)
    skipped := counts.skipped + one (field.responseState == .skipped)
    aborted := counts.aborted + one (field.responseState == .aborted) }

def ofFields (fields : List FieldProgress) : ProgressCounts := fields.foldl add {}

def formState (counts : ProgressCounts) : ProgressState :=
  if 0 < counts.invalid then .invalid
  else if 0 < counts.incomplete then .incomplete
  else if counts.emptyRequired = 0 then .complete
  else if 0 < counts.submitted then .incomplete
  else .empty

/-- The form is finished. Once a field has been skipped, every field has to be answered or
skipped. -/
def isComplete (counts : ProgressCounts) : Bool :=
  counts.invalid = 0 && counts.incomplete = 0 && counts.emptyRequired = 0 &&
    (counts.skipped = 0 || counts.answered + counts.skipped = counts.total)

end ProgressCounts

structure ProgressSummary where
  structured : Structure
  fields : Dict FieldProgress
  counts : ProgressCounts

def progressList (schema : FormSchema) (responses : Responses) (issues : List Issue)
    (skipped : List String) : List (String × FieldProgress) :=
  schema.fields.map fun field =>
    (field.id,
      fieldProgress field (responseTo responses field.id) issues (skipped.contains field.id))

/-- The progress of a form, with the ids of fields skipped outside the document. -/
def summarise (schema : FormSchema) (responses : Responses) (issues : List Issue)
    (skipped : List String) : ProgressSummary :=
  let fields := progressList schema responses issues skipped
  { structured := schema.summary
    fields := .ofList fields
    counts := .ofFields (fields.map (·.2)) }

end DocForm
