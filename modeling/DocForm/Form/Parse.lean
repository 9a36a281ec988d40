import DocForm.Form.Landmark

/-! Reading a whole form: its landmarks are taken in order, and each adds a group or a
field to what has been read. -/

namespace DocForm

structure Draft where
  groups : List FieldGroup
  responses : Responses
  warnings : List Warning

namespace Draft

def empty : Draft := ⟨[], .empty, []⟩

def fields (draft : Draft) : List FieldDefinition := draft.groups.flatMap (·.fields)

def field? (draft : Draft) (id : String) : Option FieldDefinition :=
  draft.fields.find? fun field => field.id == id

def hasGroup (draft : Draft) (id : String) : Bool :=
  draft.groups.any fun group => group.id == some id

def openGroup (draft : Draft) (node : Node) (nested : Bool) : Except ParseError Draft :=
  let place : Place := ⟨none, node.line?⟩
  if nested then .error ⟨.nestedGroup, place⟩
  else
    match node.text? "id" with
    | none => .error ⟨.missingAttribute "id" groupTag, place⟩
    | some id =>
      if !isIdentifier id then .error ⟨.invalidId id, place⟩
      else if draft.hasGroup id then .error ⟨.duplicateGroup id, place⟩
      else .ok { draft with groups := draft.groups ++ [⟨some id, node.text? "title", []⟩] }

end Draft

def FieldGroup.add (group : FieldGroup) (field : FieldDefinition) : FieldGroup :=
  { group with fields := group.fields ++ [field] }

def addToLast (field : FieldDefinition) : List FieldGroup → List FieldGroup
  | [] => []
  | [group] => [group.add field]
  | group :: rest => group :: addToLast field rest

/-- Add a field to the group without an id, which comes into being with its first
field. -/
def addToImplicit (field : FieldDefinition) : List FieldGroup → List FieldGroup
  | [] => [⟨none, none, [field]⟩]
  | group :: rest =>
    if group.isImplicit then group.add field :: rest else group :: addToImplicit field rest

namespace Draft

def addField (draft : Draft) (parsed : ParsedField) (grouped : Bool) : Except ParseError Draft :=
  let field := parsed.definition
  match draft.field? field.id with
  -- The later tag is to blame; the fault also tells where the first one stands.
  | some first => .error ⟨.duplicateField field.id first.line, ⟨some field.id, field.line⟩⟩
  | none => .ok {
      groups := if grouped then addToLast field draft.groups else addToImplicit field draft.groups
      responses := draft.responses.insert field.id parsed.response
      warnings := draft.warnings ++ parsed.warnings }

def step (settings : Settings) (draft : Draft) : Landmark → Except ParseError Draft
  | .group node nested => draft.openGroup node nested
  | .field node kind grouped => do draft.addField (← readField settings node kind) grouped

end Draft

def readForm (settings : Settings) (form : Node) : Except ParseError ParsedForm :=
  let place : Place := ⟨none, form.line?⟩
  match form.text? "id" with
  | none => .error ⟨.missingAttribute "id" formTag, place⟩
  | some id =>
    if !isIdentifier id then .error ⟨.invalidId id, place⟩
    else do
      let draft ← form.formLandmarks.foldlM (Draft.step settings) .empty
      return ⟨⟨id, form.text? "title", draft.groups⟩, draft.responses, draft.warnings⟩

def parseForm (settings : Settings) (root : Node) : Except ParseError ParsedForm :=
  match root.form? with
  | none => .error .missingForm
  | some form => readForm settings form

end DocForm
