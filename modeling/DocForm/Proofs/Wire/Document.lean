import DocForm.Proofs.Wire.Reading
import DocForm.Wire.Document

/-! Document trees read back. Main statement: a node that can be read is read again from what is
written of it. -/

namespace DocForm

namespace AttributeValue

/-- A value that is read back as it is. A record is one when its parts are in order. -/
def IsStable (value : AttributeValue) : Prop := ofJson (toJson value) = value

theorem ofJsonMembers_toJsonParts {parts : List (String × AttributeValue)}
    (stable : ∀ part ∈ parts, part.2.IsStable) : ofJsonMembers (toJsonParts parts) = parts := by
  induction parts with
  | nil => rfl
  | cons part rest ih =>
    obtain ⟨first, others⟩ := List.forall_mem_cons.mp stable
    rw [toJsonParts, ofJsonMembers, ih others, first]

mutual

theorem isStable_ofJson : ∀ json : Json, (ofJson json).IsStable
  | .null | .bool _ | .int _ | .float _ | .str _ => rfl
  | .arr items => congrArg AttributeValue.list (ofJsonItems_toJsonItems items)
  | .obj members => by
    have stable : ∀ part ∈ orderEntries (ofJsonMembers members), part.2.IsStable :=
      fun part member => isStable_of_mem members part (mem_of_mem_orderEntries member)
    have ordered := (keysIncrease_orderEntries (ofJsonMembers members)).orderEntries_eq
    rw [IsStable, ofJson, toJson, ofJson, ofJsonMembers_toJsonParts stable, ordered]

theorem ofJsonItems_toJsonItems :
    ∀ items : List Json, ofJsonItems (toJsonItems (ofJsonItems items)) = ofJsonItems items
  | [] => rfl
  | json :: rest => by
    have first : ofJson (toJson (ofJson json)) = ofJson json := isStable_ofJson json
    rw [ofJsonItems, toJsonItems, ofJsonItems, first, ofJsonItems_toJsonItems rest]

theorem isStable_of_mem : ∀ (members : List (String × Json)),
    ∀ part ∈ ofJsonMembers members, part.2.IsStable
  | [], part, member => by cases member
  | (name, json) :: rest, part, member => by
    rcases List.mem_cons.mp member with rfl | later
    · exact isStable_ofJson json
    · exact isStable_of_mem rest part later

end

end AttributeValue

theorem faithful_attribute :
    Faithful (fun json => some (AttributeValue.ofJson json)) AttributeValue.toJson := by
  rintro json value ⟨⟩
  exact congrArg some (AttributeValue.isStable_ofJson json)

theorem faithful_attributes :
    Faithful Node.attributesOfJson? (Dict.toJson AttributeValue.toJson) :=
  faithful_attribute.dict

namespace Node

open Json.Members

theorem childrenAmong?_eq (members : Json.Members) : childrenAmong? members =
    match members.get? "children" with
    | none => some []
    | some json => childrenOf? json := by
  induction members with
  | nil => rfl
  | cons member rest ih =>
    rw [childrenAmong?, Json.Members.get?_cons]
    by_cases named : member.1 = "children"
    · simp [named]
    · simp [named, Ne.symm named, ih]

/-- A node is read again when its children are. -/
theorem ofJson?_toJson_of_children {json : Json} {node : Node} (found : ofJson? json = some node)
    (kept : ofJsonAll? (toJsonAll node.children) = some node.children) :
    ofJson? node.toJson = some node := by
  rw [ofJson?] at found
  simp only [bind_eq_some] at found
  obtain ⟨members, _, type, readType, tag, readTag, attributes, readAttributes, lines, readLines,
    found⟩ := found
  obtain ⟨children, rfl⟩ : ∃ children, node = ⟨type, tag, attributes, children, lines⟩ := by
    split at found
    all_goals
      obtain ⟨children, _, same⟩ := Option.bind_eq_some_iff.mp found
      exact ⟨children, (Option.some.inj same).symm⟩
  rw [toJson, ofJson?, record?_obj]
  · simp only [Option.bind_eq_bind, Option.bind_some]
    rw [faithful_text.required readType, faithful_text.optional (by simp) readTag,
      faithful_attributes.omitted Dict.isEmpty_iff readAttributes,
      faithful_count.list.omitted List.isEmpty_iff readLines, childrenAmong?_eq]
    · cases children with
      | nil => simp
      | cons child rest => simp [childrenOf?, kept]
    all_goals simp
  · exact (((follow_one.append follow_ifSome).append follow_ite).append
      follow_ite).append follow_ifAny
  · decide

theorem childrenAmong?_of_ofJson? {members : Json.Members} {node : Node}
    (found : ofJson? (.obj members) = some node) : childrenAmong? members = some node.children := by
  rw [ofJson?] at found
  simp only [bind_eq_some, pure_eq_some] at found
  obtain ⟨_, _, _, _, _, _, _, _, _, _, children, readChildren, rfl⟩ := found
  exact readChildren

theorem childrenAt?_of_ofJson? {items : List Json} {node : Node}
    (found : ofJson? (.arr items) = some node) : childrenAt? parts items = some node.children := by
  rw [ofJson?] at found
  simp only [bind_eq_some, pure_eq_some] at found
  obtain ⟨_, _, _, _, _, _, _, _, _, _, children, readChildren, rfl⟩ := found
  exact readChildren

mutual

-- Children are read from a list inside a list or a record, so the recursion is on the JSON, and
-- what it says of them is about the list of nodes that comes out.
/-- A node is read from a record or from a list of its parts. -/
theorem ofJson?_toJson : ∀ {json : Json} {node : Node}, ofJson? json = some node →
    ofJson? node.toJson = some node
  | .obj _, _, found =>
    ofJson?_toJson_of_children found (kept_of_childrenAmong (childrenAmong?_of_ofJson? found))
  | .arr _, _, found =>
    ofJson?_toJson_of_children found (kept_of_childrenAt (childrenAt?_of_ofJson? found))
  | .null, _, found | .bool _, _, found | .int _, _, found | .float _, _, found
  | .str _, _, found => by cases found

theorem kept_of_childrenAmong : ∀ {members : List (String × Json)} {nodes : List Node},
    childrenAmong? members = some nodes → ofJsonAll? (toJsonAll nodes) = some nodes
  | [], _, found => by
    cases found
    rfl
  | (name, json) :: rest, nodes, found => by
    rw [childrenAmong?] at found
    split at found
    · exact kept_of_childrenOf found
    · exact kept_of_childrenAmong found

theorem kept_of_childrenAt : ∀ {names : List String} {items : List Json} {nodes : List Node},
    childrenAt? names items = some nodes → ofJsonAll? (toJsonAll nodes) = some nodes
  | name :: names, json :: rest, nodes, found => by
    rw [childrenAt?] at found
    split at found
    · exact kept_of_childrenOf found
    · exact kept_of_childrenAt found
  | [], _, _, found | _ :: _, [], _, found => by
    rw [childrenAt?.eq_def] at found
    cases found
    rfl

theorem kept_of_childrenOf : ∀ {json : Json} {nodes : List Node},
    childrenOf? json = some nodes → ofJsonAll? (toJsonAll nodes) = some nodes
  | .arr items, nodes, found => kept_of_ofJsonAll found
  | .null, _, found | .bool _, _, found | .int _, _, found | .float _, _, found
  | .str _, _, found | .obj _, _, found => by cases found

theorem kept_of_ofJsonAll : ∀ {items : List Json} {nodes : List Node},
    ofJsonAll? items = some nodes → ofJsonAll? (toJsonAll nodes) = some nodes
  | [], _, found => by
    cases found
    rfl
  | json :: rest, nodes, found => by
    rw [ofJsonAll?] at found
    simp only [bind_eq_some, pure_eq_some] at found
    obtain ⟨node, readNode, others, readOthers, rfl⟩ := found
    rw [toJsonAll, ofJsonAll?, ofJson?_toJson readNode, kept_of_ofJsonAll readOthers]
    rfl

end

end Node

theorem faithful_node : Faithful Node.ofJson? Node.toJson :=
  fun _ _ found => Node.ofJson?_toJson found

end DocForm
