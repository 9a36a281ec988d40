import DocForm.Field.Heading
import DocForm.Sentinel
import DocForm.Settings

/-! From what a field's tag holds to its response: a sentinel in the content decides
first, then the `state` attribute, then whether the value is empty. -/

namespace DocForm

/-- What the reader of one kind takes from a tag. -/
structure Entry where
  required : Bool
  constraints : Constraints
  /-- The text in which a sentinel is looked for. -/
  content : Option String
  value : FieldValue
  remarks : List String

namespace Entry

def isEmpty (entry : Entry) : Bool := entry.value.isEmpty entry.constraints.checkboxMode?

/-- A sentinel has to agree with the `state` attribute, and a required field cannot be
skipped. -/
def settleSentinel (entry : Entry) (state : Option String) (sentinel : Sentinel) :
    Except Fault FieldResponse :=
  let implied := sentinel.kind.state.name
  match state.filter (· ≠ implied) with
  | some other => .error (.sentinelStateConflict implied other)
  | none =>
    if sentinel.kind = .skip && entry.required then .error .skipRequired
    else .ok sentinel.response

def settleValue (entry : Entry) : Option String → Except Fault FieldResponse
  | none => .ok (if entry.isEmpty then .unanswered else .answered entry.value)
  | some "empty" => .ok .unanswered
  | some "answered" =>
    if entry.isEmpty then .error .answeredWithoutValue else .ok (.answered entry.value)
  | some "skipped" =>
    if !entry.isEmpty then .error (.stateRequiresEmpty "skipped")
    else if entry.required then .error .skipRequired
    else .ok (.skipped none)
  | some "aborted" =>
    if !entry.isEmpty then .error (.stateRequiresEmpty "aborted") else .ok (.aborted none)
  | some other => .error (.invalidState other)

def settle (entry : Entry) (state : Option String) : Except Fault FieldResponse :=
  match entry.content.bind Sentinel.parse? with
  | some sentinel => entry.settleSentinel state sentinel
  | none => entry.settleValue state

end Entry

namespace Heading

/-- The declaration of a field; role and priority default to the reader's choice. -/
def definition (heading : Heading) (settings : Settings) (entry : Entry) :
    Except ParseError FieldDefinition := do
  let priority ← heading.word "priority"
  let role ← heading.text "role"
  return {
    id := heading.id
    label := heading.label
    required := entry.required
    priority := priority.getD settings.priority
    role := role.getD settings.role
    validators := heading.node.validators
    constraints := entry.constraints
    line := heading.line }

def finish (heading : Heading) (settings : Settings) (entry : Entry) :
    Except ParseError ParsedField := do
  let definition ← heading.definition settings entry
  let state ← heading.text "state"
  match entry.settle state with
  | .error fault => heading.refuse fault
  | .ok response =>
    return {
      definition
      response
      warnings := entry.remarks.map fun message => ⟨heading.id, message, heading.line⟩ }

end Heading

end DocForm
