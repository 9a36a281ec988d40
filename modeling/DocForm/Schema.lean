import DocForm.Field.Definition
import DocForm.Response

/-! Whole forms: the declared fields in their groups, and the responses to them. -/

namespace DocForm

/-- A group of fields. The group without an id gathers the fields outside any group. -/
structure FieldGroup where
  id : Option String
  title : Option String
  fields : List FieldDefinition

def FieldGroup.isImplicit (group : FieldGroup) : Bool := group.id.isNone

structure FormSchema where
  id : String
  title : Option String
  groups : List FieldGroup

namespace FormSchema

def fields (schema : FormSchema) : List FieldDefinition := schema.groups.flatMap (·.fields)

def field? (schema : FormSchema) (id : String) : Option FieldDefinition :=
  schema.fields.find? fun field => field.id == id

def tables (schema : FormSchema) : List FieldDefinition :=
  schema.fields.filter fun field => field.kind = .table

end FormSchema

abbrev Responses := Dict FieldResponse

/-- The response to a field; a field without one is unanswered. -/
def responseTo (responses : Responses) (fieldId : String) : FieldResponse :=
  (responses.get? fieldId).getD .unanswered

/-- A remark on a field that does not keep the form from being read. -/
structure Warning where
  fieldId : String
  message : String
  line : Option Nat
deriving DecidableEq, Repr

structure ParsedField where
  definition : FieldDefinition
  response : FieldResponse
  warnings : List Warning

structure ParsedForm where
  schema : FormSchema
  responses : Responses
  warnings : List Warning

end DocForm
