import DocForm.Schema
import DocForm.Wire.Answer

/-! Declarations of fields and whole forms as JSON. A field is one flat record: its own
parts, its kind, and the limits of that kind. -/

namespace DocForm

namespace FieldOption

def toJson (option : FieldOption) : Json :=
  .obj [("id", .str option.id), ("label", .str option.label)]

def ofJson? (json : Json) : Option FieldOption := do
  let members ← json.record? ["id", "label"]
  return ⟨← members.required "id" Json.text?, ← members.required "label" Json.text?⟩

end FieldOption

namespace TableColumn

def toJson (column : TableColumn) : Json :=
  .obj [("id", .str column.id), ("label", .str column.label),
    ("type", Vocabulary.toJson column.type), ("required", .bool column.required)]

def readAt? (depth : Json.Depth) (json : Json) : Option TableColumn := do
  let members ← json.record? ["id", "label", "type", "required"]
  return ⟨← members.required "id" Json.text?, ← members.required "label" Json.text?,
    ← members.required "type" (Vocabulary.caseOfJson? depth),
    ← members.defaulted "required" Json.bool? false⟩

def ofJson? (json : Json) : Option TableColumn := readAt? .outer json

end TableColumn

namespace ValidatorRef

def toJson : ValidatorRef → Json
  | .named id => .str id
  | .configured id params => .obj (("id", .str id) ::
      params.entries.map fun entry => (entry.1, AttributeValue.toJson entry.2))

def ofJson? : Json → Option ValidatorRef
  | .str id => some (.named id)
  | .obj members => do
    let id ← Json.Members.required members "id" Json.text?
    let params := (members.filter fun member => member.1 ≠ "id").map fun member =>
      (member.1, AttributeValue.ofJson member.2)
    return .configured id (.ofList params)
  | _ => none

end ValidatorRef

namespace Hints

def members (hints : Hints) : Json.Members :=
  Json.ifSome "placeholder" .str hints.placeholder ++ Json.ifAny "examples" .str hints.examples

def ofMembers? (members : Json.Members) : Option Hints := do
  return ⟨← members.optional "placeholder" Json.text?,
    ← members.defaulted "examples" (Json.list? Json.text?) []⟩

end Hints

namespace ListLimits

def members (limits : ListLimits) : Json.Members :=
  Json.ifSome "minItems" .ofCount limits.minItems ++
    Json.ifSome "maxItems" .ofCount limits.maxItems ++
    Json.ifSome "itemMinLength" .ofCount limits.itemMinLength ++
    Json.ifSome "itemMaxLength" .ofCount limits.itemMaxLength ++
    [("uniqueItems", .bool limits.uniqueItems)] ++ limits.hints.members

def ofMembers? (members : Json.Members) : Option ListLimits := do
  return ⟨← members.optional "minItems" Json.count?, ← members.optional "maxItems" Json.count?,
    ← members.optional "itemMinLength" Json.count?,
    ← members.optional "itemMaxLength" Json.count?,
    ← members.defaulted "uniqueItems" Json.bool? false, ← Hints.ofMembers? members⟩

end ListLimits

namespace TableLimits

def members (limits : TableLimits) : Json.Members :=
  [("columns", .arr (limits.columns.map TableColumn.toJson))] ++
    Json.ifSome "minRows" .ofCount limits.minRows ++
    Json.ifSome "maxRows" .ofCount limits.maxRows

def ofMembers? (depth : Json.Depth) (members : Json.Members) : Option TableLimits := do
  return ⟨← members.required "columns" (Json.list? (TableColumn.readAt? depth)),
    ← members.optional "minRows" Json.count?, ← members.optional "maxRows" Json.count?⟩

def ofJson? (json : Json) : Option TableLimits := do
  ofMembers? .outer (← json.record? ["columns", "minRows", "maxRows"])

end TableLimits

namespace Constraints

def optionsMember (options : List FieldOption) : String × Json :=
  ("options", .arr (options.map FieldOption.toJson))

def limitMembers : Constraints → Json.Members
  | .string limits =>
    Json.ifSome "minLength" .ofCount limits.minLength ++
      Json.ifSome "maxLength" .ofCount limits.maxLength ++
      Json.ifSome "pattern" .str limits.pattern ++ limits.hints.members
  | .number limits =>
    Json.ifSome "min" .float limits.min ++ Json.ifSome "max" .float limits.max ++
      [("integer", .bool limits.integer)] ++ limits.hints.members
  | .stringList limits | .urlList limits => limits.members
  | .singleSelect options => [optionsMember options]
  | .multiSelect limits =>
    [optionsMember limits.options] ++ Json.ifSome "minSelections" .ofCount limits.minSelections ++
      Json.ifSome "maxSelections" .ofCount limits.maxSelections
  | .checkboxes limits =>
    [optionsMember limits.options, ("checkboxMode", Vocabulary.toJson limits.mode),
      ("approvalMode", Vocabulary.toJson limits.approval)] ++
      Json.ifSome "minDone" .ofCount limits.minDone
  | .url hints => hints.members
  | .date limits =>
    Json.ifSome "min" .str limits.min ++ Json.ifSome "max" .str limits.max ++ limits.hints.members
  | .year limits =>
    Json.ifSome "min" .int limits.min ++ Json.ifSome "max" .int limits.max ++ limits.hints.members
  | .table limits => limits.members

def members (constraints : Constraints) : Json.Members :=
  ("kind", Vocabulary.toJson constraints.kind) :: constraints.limitMembers

def optionsOf? (members : Json.Members) : Option (List FieldOption) :=
  members.required "options" (Json.list? FieldOption.ofJson?)

def ofKind? (members : Json.Members) (kind : FieldKind) : Option Constraints := do
  match kind with
  | .string => return .string ⟨← members.optional "minLength" Json.count?,
      ← members.optional "maxLength" Json.count?, ← members.optional "pattern" Json.text?,
      ← Hints.ofMembers? members⟩
  | .number => return .number ⟨← members.optional "min" Json.float?,
      ← members.optional "max" Json.float?, ← members.defaulted "integer" Json.bool? false,
      ← Hints.ofMembers? members⟩
  | .stringList => return .stringList (← ListLimits.ofMembers? members)
  | .singleSelect => return .singleSelect (← optionsOf? members)
  | .multiSelect => return .multiSelect ⟨← optionsOf? members,
      ← members.optional "minSelections" Json.count?,
      ← members.optional "maxSelections" Json.count?⟩
  | .checkboxes => return .checkboxes ⟨← optionsOf? members,
      ← members.required "checkboxMode" (Vocabulary.caseOfJson? .inner),
      ← members.required "approvalMode" (Vocabulary.caseOfJson? .inner),
      ← members.optional "minDone" Json.count?⟩
  | .url => return .url (← Hints.ofMembers? members)
  | .urlList => return .urlList (← ListLimits.ofMembers? members)
  | .date => return .date ⟨← members.optional "min" Json.text?,
      ← members.optional "max" Json.text?, ← Hints.ofMembers? members⟩
  | .year => return .year ⟨← members.optional "min" FieldValue.yearOfJson?,
      ← members.optional "max" FieldValue.yearOfJson?, ← Hints.ofMembers? members⟩
  | .table => return .table (← TableLimits.ofMembers? .inner members)

/-- The constraints stand among the other parts of a declaration, told by its kind. -/
def ofMembers? (members : Json.Members) : Option Constraints := do
  let kind : FieldKind ← members.required "kind" (Vocabulary.tagOfJson? .inner)
  ofKind? members kind

end Constraints

namespace FieldDefinition

/-- A declaration as one flat record. -/
def toJson (field : FieldDefinition) : Json :=
  .obj ([("id", .str field.id), ("label", .str field.label), ("required", .bool field.required),
      ("priority", Vocabulary.toJson field.priority), ("role", .str field.role)] ++
    Json.ifAny "validators" ValidatorRef.toJson field.validators ++
    field.constraints.members ++ Json.ifSome "line" .ofCount field.line)

def ofJson? (json : Json) : Option FieldDefinition := do
  let members ← json.members?
  return {
    id := ← members.required "id" Json.text?
    label := ← members.required "label" Json.text?
    required := ← members.required "required" Json.bool?
    priority := ← members.required "priority" Vocabulary.ofJson?
    role := ← members.required "role" Json.text?
    validators := ← members.defaulted "validators" (Json.list? ValidatorRef.ofJson?) []
    constraints := ← Constraints.ofMembers? members
    line := ← members.optional "line" Json.count? }

end FieldDefinition

namespace FieldGroup

def toJson (group : FieldGroup) : Json :=
  .obj (Json.ifSome "id" .str group.id ++ Json.ifSome "title" .str group.title ++
    [("fields", .arr (group.fields.map FieldDefinition.toJson))])

def ofJson? (json : Json) : Option FieldGroup := do
  let members ← json.record? ["id", "title", "fields"]
  return ⟨← members.optional "id" Json.text?, ← members.optional "title" Json.text?,
    ← members.required "fields" (Json.list? FieldDefinition.ofJson?)⟩

end FieldGroup

namespace FormSchema

def toJson (schema : FormSchema) : Json :=
  .obj ([("id", .str schema.id)] ++ Json.ifSome "title" .str schema.title ++
    [("groups", .arr (schema.groups.map FieldGroup.toJson))])

def ofJson? (json : Json) : Option FormSchema := do
  let members ← json.record? ["id", "title", "groups"]
  return ⟨← members.required "id" Json.text?, ← members.optional "title" Json.text?,
    ← members.required "groups" (Json.list? FieldGroup.ofJson?)⟩

end FormSchema

namespace Warning

def toJson (warning : Warning) : Json :=
  .obj ([("field_id", .str warning.fieldId), ("message", .str warning.message)] ++
    Json.ifSome "line" .ofCount warning.line)

def ofJson? (json : Json) : Option Warning := do
  let members ← json.record? ["field_id", "message", "line"]
  return ⟨← members.required "field_id" Json.text?, ← members.required "message" Json.text?,
    ← members.optional "line" Json.count?⟩

end Warning

namespace Responses

def toJson (responses : Responses) : Json := Dict.toJson FieldResponse.toJson responses

def ofJson? (json : Json) : Option Responses := Dict.ofJson? FieldResponse.ofJson? json

end Responses

namespace ParsedForm

def toJson (form : ParsedForm) : Json :=
  .obj ([("schema", form.schema.toJson), ("responses", Responses.toJson form.responses)] ++
    Json.ifAny "warnings" Warning.toJson form.warnings)

def ofJson? (json : Json) : Option ParsedForm := do
  let members ← json.record? ["schema", "responses", "warnings"]
  return ⟨← members.required "schema" FormSchema.ofJson?,
    ← members.required "responses" Responses.ofJson?,
    ← members.defaulted "warnings" (Json.list? Warning.ofJson?) []⟩

end ParsedForm

end DocForm
