import DocForm.Identifier
import DocForm.Node
import DocForm.ParseError
import DocForm.Schema

/-! The parts of a field tag that all kinds share, and reading its attributes. An
attribute may be absent; one of the wrong shape is always an error. -/

namespace DocForm

/-- A field tag whose id and label have been read. -/
structure Heading where
  node : Node
  kind : FieldKind
  id : String
  label : String

namespace Heading

def line (heading : Heading) : Option Nat := heading.node.line?

def place (heading : Heading) : Place := ⟨some heading.id, heading.line⟩

/-- The place of an option; an option without a line has the line of its field. -/
def optionPlace (heading : Heading) (line : Option Nat) : Place :=
  ⟨some heading.id, line <|> heading.line⟩

def refuse {α : Type} (heading : Heading) (fault : Fault) : Except ParseError α :=
  .error ⟨fault, heading.place⟩

def ofNode (node : Node) (kind : FieldKind) : Except ParseError Heading :=
  match node.text? "id" with
  | none => .error ⟨.missingAttribute "id" kind.tag, ⟨none, node.line?⟩⟩
  | some id =>
    if !isIdentifier id then .error ⟨.invalidId id, ⟨none, node.line?⟩⟩
    else
      match node.text? "label" with
      | none => .error ⟨.missingAttribute "label" kind.tag, ⟨some id, node.line?⟩⟩
      | some label => .ok ⟨node, kind, id, label⟩

variable {α : Type}

/-- An attribute that may be absent but has to be readable. -/
def read (heading : Heading) (name : String) (read : AttributeValue → Option α) :
    Except ParseError (Option α) :=
  match heading.node.attribute? name with
  | none => .ok none
  | some value =>
    match read value with
    | some found => .ok (some found)
    | none => heading.refuse (.invalidValue name value.describe)

/-- A truth value, which is false when absent. -/
def flag (heading : Heading) (name : String) : Except ParseError Bool := do
  return (← heading.read name AttributeValue.bool?).getD false

def count (heading : Heading) (name : String) : Except ParseError (Option Nat) :=
  heading.read name AttributeValue.count?

def number (heading : Heading) (name : String) : Except ParseError (Option Float) :=
  heading.read name AttributeValue.number?

def text (heading : Heading) (name : String) : Except ParseError (Option String) :=
  heading.read name AttributeValue.text?

def word (heading : Heading) (name : String) [Vocabulary α] : Except ParseError (Option α) :=
  heading.read name fun value => value.text?.bind Vocabulary.read?

/-- A lower bound above the upper one is refused. -/
def checkBounds (heading : Heading) (above : α → α → Bool) (lowerName upperName : String)
    (lower upper : Option α) : Except ParseError Unit :=
  match lower, upper with
  | some low, some high =>
    if above low high then heading.refuse (.invalidBounds lowerName upperName) else .ok ()
  | _, _ => .ok ()

def counts (heading : Heading) (lowerName upperName : String) :
    Except ParseError (Option Nat × Option Nat) := do
  let lower ← heading.count lowerName
  let upper ← heading.count upperName
  heading.checkBounds (fun low high => high < low) lowerName upperName lower upper
  return (lower, upper)

/-- Placeholder and examples. Every example has to be valid; a placeholder that is not
draws a remark, or is refused when strict. -/
def hints (heading : Heading) (strict : Bool) (valid : String → Bool) :
    Except ParseError (Hints × List String) := do
  let placeholder ← heading.text "placeholder"
  let examples := (← heading.read "examples" AttributeValue.texts?).getD []
  match examples.find? fun sample => !valid sample with
  | some sample => heading.refuse (.invalidExample sample heading.kind)
  | none =>
    let hints : Hints := ⟨placeholder, examples⟩
    match placeholder.filter fun text => !valid text with
    | none => return (hints, [])
    | some text =>
      let fault := Fault.invalidPlaceholder text heading.kind
      if strict then heading.refuse fault else return (hints, [fault.describe])

/-- Nothing is typed into a chooser, so it has no hints. -/
def forbidHints (heading : Heading) : Except ParseError Unit :=
  match ["placeholder", "examples"].find? heading.node.hasAttribute with
  | some name => heading.refuse (.forbiddenAttribute name heading.kind)
  | none => .ok ()

end Heading

end DocForm
