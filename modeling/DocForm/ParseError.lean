import DocForm.Field.Kind

/-! Why a form or a field in it cannot be read, and where. -/

namespace DocForm

/-- The field and the line that an error is about, as far as they are known. -/
structure Place where
  fieldId : Option String
  line : Option Nat
deriving DecidableEq, Repr

def Place.describe : Place → String
  | ⟨some id, some line⟩ => s!"field: {id}, line: {line}"
  | ⟨some id, none⟩ => s!"field: {id}"
  | ⟨none, some line⟩ => s!"line: {line}"
  | ⟨none, none⟩ => "unknown location"

inductive Fault where
  | missingForm
  | missingAttribute (name tag : String)
  | invalidId (id : String)
  | invalidValue (name value : String)
  | forbiddenAttribute (name : String) (kind : FieldKind)
  | invalidBounds (lower upper : String)
  | invalidExample (text : String) (kind : FieldKind)
  | invalidPlaceholder (text : String) (kind : FieldKind)
  | missingOptionId (label : String)
  | duplicateOption (id : String)
  | invalidMarker (marker setting : String)
  | explicitNotRequired
  | invalidState (state : String)
  | sentinelStateConflict (sentinel state : String)
  | skipRequired
  | stateRequiresEmpty (state : String)
  | answeredWithoutValue
  | invalidColumnType (text : String)
  | duplicateColumn (id : String)
  | columnCountMismatch (name : String) (entries columns : Nat)
  | columnAttributeWithoutIds (name : String)
  | missingTableSchema
  | invalidSeparator
  | duplicateField (id : String) (firstLine : Option Nat)
  | duplicateGroup (id : String)
  | nestedGroup
deriving DecidableEq, Repr

namespace Fault

def describe : Fault → String
  | .missingForm => "no form tag found in document"
  | .missingAttribute name tag => s!"missing required attribute '{name}' on {tag}"
  | .invalidId id => s!"invalid identifier '{id}'"
  | .invalidValue name value => s!"invalid value '{value}' for attribute '{name}'"
  | .forbiddenAttribute name kind =>
    let kindName := kind.name
    s!"attribute '{name}' is not allowed on {kindName} fields"
  | .invalidBounds lower upper => s!"attribute '{lower}' must not be greater than '{upper}'"
  | .invalidExample text kind =>
    let kindName := kind.name
    s!"example '{text}' is not a valid {kindName}"
  | .invalidPlaceholder text kind =>
    let kindName := kind.name
    s!"placeholder '{text}' is not a valid {kindName}"
  | .missingOptionId label => s!"option '{label}' has no id annotation"
  | .duplicateOption id => s!"duplicate option id '{id}'"
  | .invalidMarker marker setting => s!"marker '{marker}' is not valid for {setting}"
  | .explicitNotRequired => "explicit checkboxes are always required"
  | .invalidState state => s!"invalid state '{state}'"
  | .sentinelStateConflict sentinel state =>
    s!"content is a {sentinel} sentinel but state attribute says '{state}'"
  | .skipRequired => "required field cannot be skipped"
  | .stateRequiresEmpty state => s!"state '{state}' requires an empty value"
  | .answeredWithoutValue => "state 'answered' requires a value"
  | .invalidColumnType text => s!"invalid column type '{text}'"
  | .duplicateColumn id => s!"duplicate column id '{id}'"
  | .columnCountMismatch name entries columns =>
    s!"'{name}' has {entries} entries but there are {columns} columns"
  | .columnAttributeWithoutIds name => s!"'{name}' requires 'columnIds'"
  | .missingTableSchema => "table has neither 'columnIds' nor a header row"
  | .invalidSeparator => "invalid table separator row"
  | .duplicateField id firstLine =>
    let first := (firstLine.map toString).getD "?"
    s!"duplicate field id '{id}' (first defined at line {first})"
  | .duplicateGroup id => s!"duplicate group id '{id}'"
  | .nestedGroup => "field groups cannot be nested"

/-- How to mend the fault, where there is something to say. -/
def advice? : Fault → Option String
  | .missingForm => some "Wrap the fields in a \x7b% form id=\"...\" %\x7d tag"
  | .invalidId _ => some
    "Identifiers start with a lowercase letter followed by lowercase letters, digits or '_'"
  | .forbiddenAttribute .. => some
    "placeholder and examples only apply to fields where free text is typed in"
  | .missingOptionId _ => some "Annotate every option, e.g. `- [ ] Yes \x7b% #yes %\x7d`"
  | .invalidMarker .. => some <|
    "Valid markers are [ ], [x], [/], [*], [-] (multi), [ ], [x] (simple) " ++
      "and [ ], [y], [n] (explicit)"
  | .skipRequired => some
    "Required fields must be answered; use %ABORT% if the field cannot be completed"
  | .invalidState _ => some "Valid states are: empty, answered, skipped, aborted"
  | .invalidColumnType _ => some "Valid column types are: string, number, url, date, year"
  | .invalidSeparator => some
    "The row after the header (or after the type row) must look like |---|---|"
  | .explicitNotRequired => some
    "Explicit checkboxes need a yes/no answer for every option; drop required=false"
  | _ => none

end Fault

structure ParseError where
  fault : Fault
  place : Place
deriving DecidableEq, Repr

namespace ParseError

/-- No place is known when there is no form at all. -/
def missingForm : ParseError := ⟨.missingForm, ⟨none, none⟩⟩

def message (error : ParseError) : String :=
  match error.fault with
  | .missingForm => error.fault.describe
  | fault => fault.describe ++ ", " ++ error.place.describe

end ParseError

end DocForm
