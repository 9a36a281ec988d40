import DocForm.Field.Parse

/-! The landmarks of a form: its field tags and its groups, in the order in which a
reader of the document meets them. Everything else is passed through. -/

namespace DocForm

/-- A field tag or the beginning of a group, and whether it lies inside a group. -/
inductive Landmark where
  | group (node : Node) (nested : Bool)
  | field (node : Node) (kind : FieldKind) (grouped : Bool)

def groupTag : String := "field-group"

mutual

/-- The landmarks at a node and below it. Nothing is looked for inside a field. -/
def Node.landmarks (grouped : Bool) : Node → List Landmark
  | ⟨type, tag, attributes, children, lines⟩ =>
    let node : Node := ⟨type, tag, attributes, children, lines⟩
    if node.isTag groupTag then .group node grouped :: Node.landmarksAmong true children
    else
      match node.fieldKind? with
      | some kind => [.field node kind grouped]
      | none => Node.landmarksAmong grouped children

def Node.landmarksAmong (grouped : Bool) : List Node → List Landmark
  | [] => []
  | child :: rest => Node.landmarks grouped child ++ Node.landmarksAmong grouped rest

end

def Node.formLandmarks (form : Node) : List Landmark := Node.landmarksAmong false form.children

def formTag : String := "form"

mutual

/-- The first form tag at a node or below it. -/
def Node.form? : Node → Option Node
  | ⟨type, tag, attributes, children, lines⟩ =>
    let node : Node := ⟨type, tag, attributes, children, lines⟩
    if node.isTag formTag then some node else Node.formAmong? children

def Node.formAmong? : List Node → Option Node
  | [] => none
  | child :: rest => child.form? <|> Node.formAmong? rest

end

end DocForm
