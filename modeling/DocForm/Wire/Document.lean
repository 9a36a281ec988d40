import DocForm.Json.Basic
import DocForm.Node

/-! Document trees as JSON. -/

namespace DocForm

namespace AttributeValue

mutual

def toJson : AttributeValue → Json
  | .null => .null
  | .bool value => .bool value
  | .number value => .float value
  | .text value => .str value
  | .list items => .arr (toJsonItems items)
  | .record parts => .obj (toJsonParts parts)

def toJsonItems : List AttributeValue → List Json
  | [] => []
  | item :: rest => toJson item :: toJsonItems rest

def toJsonParts : List (String × AttributeValue) → List (String × Json)
  | [] => []
  | (name, value) :: rest => (name, toJson value) :: toJsonParts rest

end

mutual

/-- Every JSON value is an attribute value; all numbers become doubles. -/
def ofJson : Json → AttributeValue
  | .null => .null
  | .bool value => .bool value
  | .int value => .number (Float.ofInt value)
  | .float value => .number value
  | .str value => .text value
  | .arr items => .list (ofJsonItems items)
  | .obj members => .record (orderEntries (ofJsonMembers members))

def ofJsonItems : List Json → List AttributeValue
  | [] => []
  | item :: rest => ofJson item :: ofJsonItems rest

def ofJsonMembers : List (String × Json) → List (String × AttributeValue)
  | [] => []
  | (name, value) :: rest => (name, ofJson value) :: ofJsonMembers rest

end

end AttributeValue

namespace Dict

variable {α : Type}

def ofJson? (read : Json → Option α) (json : Json) : Option (Dict α) := do
  let members ← json.members?
  let entries ← members.mapM fun member => (read member.2).map fun value => (member.1, value)
  return .ofList entries

def toJson (write : α → Json) (dict : Dict α) : Json :=
  .obj (dict.entries.map fun entry => (entry.1, write entry.2))

end Dict

namespace Node

def attributesOfJson? (json : Json) : Option (Dict AttributeValue) :=
  Dict.ofJson? (fun value => some (AttributeValue.ofJson value)) json

def parts : List String := ["type", "tag", "attributes", "children", "lines"]

mutual

/-- What is empty is left out. -/
def toJson : Node → Json
  | ⟨type, tag, attributes, children, lines⟩ =>
    .obj ([("type", .str type)] ++ Json.ifSome "tag" .str tag ++
      (if attributes.isEmpty then []
        else [("attributes", attributes.toJson AttributeValue.toJson)]) ++
      (if children.isEmpty then [] else [("children", .arr (toJsonAll children))]) ++
      Json.ifAny "lines" .ofCount lines)

def toJsonAll : List Node → List Json
  | [] => []
  | child :: rest => toJson child :: toJsonAll rest

end

mutual

/-- Read a node. All parts but the type may be absent. -/
def ofJson? (json : Json) : Option Node := do
  let members ← json.record? parts
  let type ← members.required "type" Json.text?
  let tag ← members.optional "tag" Json.text?
  let attributes ← members.defaulted "attributes" attributesOfJson? .empty
  let lines ← members.defaulted "lines" (Json.list? Json.count?) []
  let children ← match json with
    | .obj members => childrenAmong? members
    | .arr items => childrenAt? parts items
    | _ => none
  return ⟨type, tag, attributes, children, lines⟩

def childrenAmong? : List (String × Json) → Option (List Node)
  | [] => some []
  | (name, value) :: rest =>
    if name = "children" then childrenOf? value else childrenAmong? rest

def childrenAt? : List String → List Json → Option (List Node)
  | name :: names, value :: rest =>
    if name = "children" then childrenOf? value else childrenAt? names rest
  | _, _ => some []

def childrenOf? : Json → Option (List Node)
  | .arr items => ofJsonAll? items
  | _ => none

def ofJsonAll? : List Json → Option (List Node)
  | [] => some []
  | json :: rest => do return (← ofJson? json) :: (← ofJsonAll? rest)

end

end Node

end DocForm
