import DocForm.Field.Chooser
import DocForm.Field.ItemList
import DocForm.Field.Scalar
import DocForm.Field.Table

/-! Reading a field tag of any kind. -/

namespace DocForm

def Heading.entry (heading : Heading) (settings : Settings) : Except ParseError Entry :=
  match heading.kind with
  | .string => heading.readString settings
  | .number => heading.readNumber settings
  | .stringList => heading.readList settings false
  | .singleSelect => heading.readSingleSelect
  | .multiSelect => heading.readMultiSelect
  | .checkboxes => heading.readCheckboxes
  | .url => heading.readUrl settings
  | .urlList => heading.readList settings true
  | .date => heading.readDate settings
  | .year => heading.readYear settings
  | .table => heading.readTable

def Node.fieldKind? (node : Node) : Option FieldKind := node.tagName?.bind FieldKind.ofTag?

def readField (settings : Settings) (node : Node) (kind : FieldKind) :
    Except ParseError ParsedField := do
  let heading ← Heading.ofNode node kind
  let entry ← heading.entry settings
  heading.finish settings entry

/-- Read a field; a node that is no field tag is none. -/
def parseField (settings : Settings) (node : Node) : Except ParseError (Option ParsedField) :=
  match node.fieldKind? with
  | none => .ok none
  | some kind => do return some (← readField settings node kind)

end DocForm
