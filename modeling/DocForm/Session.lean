import DocForm.Form.Parse
import DocForm.Progress
import DocForm.Reference.Resolve
import DocForm.Validation.Field

/-! Filling in a form step by step: the schema stays as it was read, the responses and the
fields skipped outside the document change. -/

namespace DocForm

structure Session where
  settings : Settings
  schema : FormSchema
  responses : Responses
  skipped : List String

namespace Session

def ofForm (settings : Settings) (form : ParsedForm) : Session :=
  ⟨settings, form.schema, form.responses, []⟩

/-- Store a response; also tells whether there was one before. -/
def set (session : Session) (fieldId : String) (response : FieldResponse) : Bool × Session :=
  (session.responses.contains fieldId,
    { session with responses := session.responses.insert fieldId response })

/-- Remove a response; also tells whether there was one. -/
def remove (session : Session) (fieldId : String) : Bool × Session :=
  (session.responses.contains fieldId,
    { session with responses := session.responses.erase fieldId })

/-- Store the response that a field tag holds now, under the id it has there. -/
def reparse (session : Session) (node : Node) :
    Except ParseError (Option FieldResponse × Session) := do
  match ← parseField session.settings node with
  | none => return (none, session)
  | some parsed =>
    return (some parsed.response, (session.set parsed.definition.id parsed.response).2)

/-- Count a field as skipped; also tells whether it was not before. -/
def skip (session : Session) (fieldId : String) : Bool × Session :=
  if session.skipped.contains fieldId then (false, session)
  else (true, { session with skipped := fieldId :: session.skipped })

/-- No longer count a field as skipped; also tells whether it was before. -/
def unskip (session : Session) (fieldId : String) : Bool × Session :=
  if session.skipped.contains fieldId then
    (true, { session with skipped := session.skipped.filter (· ≠ fieldId) })
  else (false, session)

def issues (session : Session) : List Issue := validateForm session.schema session.responses

def summary (session : Session) : ProgressSummary :=
  summarise session.schema session.responses session.issues session.skipped

def rowCounts (session : Session) : Reference.RowCounts :=
  Reference.rowCounts session.schema session.responses

end Session

end DocForm
