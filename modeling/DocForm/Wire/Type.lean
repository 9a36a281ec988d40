import DocForm.Wire.Declaration
import DocForm.Wire.Issue

/-! The types of the values that are exchanged as JSON, each with its reader and its writer. -/

namespace DocForm

inductive WireType where
  | node
  | attributeValue
  | definition
  | schema
  | form
  | response
  | cell
  | column
  | validator
  | issue
  | scope
  | sentinel
  | warning
deriving DecidableEq, Repr

namespace WireType

def all : List WireType :=
  [.node, .attributeValue, .definition, .schema, .form, .response, .cell, .column, .validator,
    .issue, .scope, .sentinel, .warning]

def name : WireType → String
  | .node => "node"
  | .attributeValue => "attribute"
  | .definition => "definition"
  | .schema => "schema"
  | .form => "form"
  | .response => "response"
  | .cell => "cell"
  | .column => "column"
  | .validator => "validator"
  | .issue => "issue"
  | .scope => "scope"
  | .sentinel => "sentinel"
  | .warning => "warning"

instance : Vocabulary WireType := ⟨"wire type", all, name⟩

def Value : WireType → Type
  | .node => Node
  | .attributeValue => AttributeValue
  | .definition => FieldDefinition
  | .schema => FormSchema
  | .form => ParsedForm
  | .response => FieldResponse
  | .cell => CellResponse
  | .column => TableColumn
  | .validator => ValidatorRef
  | .issue => Issue
  | .scope => Reference
  | .sentinel => Sentinel
  | .warning => Warning

def read? : (type : WireType) → Json → Option type.Value
  | .node => Node.ofJson?
  | .attributeValue => fun json => some (AttributeValue.ofJson json)
  | .definition => FieldDefinition.ofJson?
  | .schema => FormSchema.ofJson?
  | .form => ParsedForm.ofJson?
  | .response => FieldResponse.ofJson?
  | .cell => CellResponse.ofJson?
  | .column => TableColumn.ofJson?
  | .validator => ValidatorRef.ofJson?
  | .issue => Issue.ofJson?
  | .scope => Reference.ofJson?
  | .sentinel => Sentinel.ofJson?
  | .warning => Warning.ofJson?

def write : (type : WireType) → type.Value → Json
  | .node => Node.toJson
  | .attributeValue => AttributeValue.toJson
  | .definition => FieldDefinition.toJson
  | .schema => FormSchema.toJson
  | .form => ParsedForm.toJson
  | .response => FieldResponse.toJson
  | .cell => CellResponse.toJson
  | .column => TableColumn.toJson
  | .validator => ValidatorRef.toJson
  | .issue => Issue.toJson
  | .scope => Reference.toJson
  | .sentinel => Sentinel.toJson
  | .warning => Warning.toJson

def recode? (type : WireType) (json : Json) : Option Json := (type.read? json).map type.write

end WireType

end DocForm
