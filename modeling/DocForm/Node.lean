import DocForm.Attribute

/-! The tree of a document, as a markup parser hands it over. -/

namespace DocForm

structure Node where
  type : String
  tag : Option String
  attributes : Dict AttributeValue
  children : List Node
  lines : List Nat
deriving Inhabited

namespace Node

def tagName? (node : Node) : Option String :=
  if node.type = "tag" then node.tag else none

def isTag (node : Node) (name : String) : Bool := node.tagName? = some name

def isText (node : Node) : Bool := node.type = "text"

/-- Soft and hard breaks end a line inside a paragraph. -/
def isBreak (node : Node) : Bool := node.type = "softbreak" || node.type = "hardbreak"

def isFence (node : Node) : Bool := node.type = "fence"

def isItem (node : Node) : Bool := node.type = "item"

/-- The first line of the document that the node covers. -/
def line? (node : Node) : Option Nat := node.lines.head?

def attribute? (node : Node) (name : String) : Option AttributeValue := node.attributes.get? name

/-- The attribute is there, whatever its value. -/
def hasAttribute (node : Node) (name : String) : Bool := node.attributes.contains name

def text? (node : Node) (name : String) : Option String :=
  (node.attribute? name).bind AttributeValue.text?

def number? (node : Node) (name : String) : Option Float :=
  (node.attribute? name).bind AttributeValue.number?

def bool? (node : Node) (name : String) : Option Bool :=
  (node.attribute? name).bind AttributeValue.bool?

def count? (node : Node) (name : String) : Option Nat :=
  (node.attribute? name).bind AttributeValue.count?

def texts? (node : Node) (name : String) : Option (List String) :=
  (node.attribute? name).bind AttributeValue.texts?

/-- The validators under `validate`: one of them or a list. -/
def validators (node : Node) : List ValidatorRef :=
  match node.attribute? "validate" with
  | none => []
  | some (.list items) => items.filterMap ValidatorRef.ofAttribute?
  | some value => (ValidatorRef.ofAttribute? value).toList

def ownText (node : Node) : String := (node.text? "content").getD ""

mutual

/-- The text of a node and all below it; a break counts as a blank. -/
def textContent : Node → String
  | ⟨type, tag, attributes, children, lines⟩ =>
    let node : Node := ⟨type, tag, attributes, children, lines⟩
    if node.isText then node.ownText
    else if node.isBreak then " "
    else textContents children

def textContents : List Node → String
  | [] => ""
  | child :: rest => textContent child ++ textContents rest

end

end Node

end DocForm
