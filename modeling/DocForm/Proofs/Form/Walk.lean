import DocForm.Form.Landmark

/-! The walk through a tree, node by node. Main statement: the landmarks of a form are what
the walk meets outside every field tag, each with whether a group tag lies above it. -/

namespace DocForm

/-- A node met on a walk, and the nodes that it lies in, the innermost first. -/
structure Visit where
  above : List Node
  node : Node

mutual

/-- A node and all below it in the order of the document. -/
def Node.visits (above : List Node) : Node → List Visit
  | ⟨type, tag, attributes, children, lines⟩ =>
    let node : Node := ⟨type, tag, attributes, children, lines⟩
    ⟨above, node⟩ :: Node.visitsAmong (node :: above) children

/-- Nodes and all below them, one node after another. -/
def Node.visitsAmong (above : List Node) : List Node → List Visit
  | [] => []
  | child :: rest => Node.visits above child ++ Node.visitsAmong above rest

end

namespace Node

/-- The node is the tag of a field. -/
def isFieldTag (node : Node) : Bool := node.fieldKind?.isSome

/-- The node is the tag of a group. -/
def isGroupTag (node : Node) : Bool := node.isTag groupTag

/-- All that lies below a node. -/
def walk (node : Node) : List Visit := visitsAmong [node] node.children

end Node

namespace Visit

/-- The node lies in a field tag. -/
def inField (visit : Visit) : Bool := visit.above.any Node.isFieldTag

/-- The node lies in a group tag. -/
def inGroup (visit : Visit) : Bool := visit.above.any Node.isGroupTag

/-- The landmark that a visit comes to, if it comes to one. -/
def landmark? (visit : Visit) : Option Landmark :=
  if visit.inField then none
  else if visit.node.isGroupTag then some (.group visit.node visit.inGroup)
  else visit.node.fieldKind?.map fun kind => .field visit.node kind visit.inGroup

/-- The node is a group tag or a field tag that lies in no other such tag. -/
def isOuter (visit : Visit) : Bool :=
  (visit.node.isGroupTag || visit.node.isFieldTag) && !visit.inGroup && !visit.inField

end Visit

namespace Node

/-- The field tags below a node, but for those inside another field tag. -/
def fieldTags (node : Node) : List Node :=
  (node.walk.filter fun visit => visit.node.isFieldTag && !visit.inField).map (·.node)

/-- The group tags below a node, but for those inside a field tag. -/
def groupTags (node : Node) : List Node :=
  (node.walk.filter fun visit => visit.node.isGroupTag && !visit.inField).map (·.node)

/-- The outermost group tags and field tags below a node. -/
def outerTags (node : Node) : List Node := (node.walk.filter Visit.isOuter).map (·.node)

theorem fieldKind?_of_isGroupTag {node : Node} (group : node.isGroupTag = true) :
    node.fieldKind? = none := by
  have named : node.tagName? = some groupTag := by simpa [isGroupTag, isTag] using group
  rw [fieldKind?, named]
  decide

theorem isFieldTag_of_isGroupTag {node : Node} (group : node.isGroupTag = true) :
    node.isFieldTag = false := by
  simp [isFieldTag, fieldKind?_of_isGroupTag group]

theorem isGroupTag_of_isFieldTag {node : Node} (field : node.isFieldTag = true) :
    node.isGroupTag = false := by
  cases group : node.isGroupTag with
  | false => rfl
  | true => simp [isFieldTag_of_isGroupTag group] at field

theorem visits_eq (above : List Node) (node : Node) :
    node.visits above = ⟨above, node⟩ :: visitsAmong (node :: above) node.children := by
  cases node
  rfl

theorem landmarks_eq (grouped : Bool) (node : Node) :
    node.landmarks grouped =
      if node.isGroupTag then .group node grouped :: landmarksAmong true node.children
      else
        match node.fieldKind? with
        | some kind => [.field node kind grouped]
        | none => landmarksAmong grouped node.children := by
  cases node
  rfl

theorem landmarks_of_group {node : Node} (group : node.isGroupTag = true) (grouped : Bool) :
    node.landmarks grouped = .group node grouped :: landmarksAmong true node.children := by
  rw [landmarks_eq, if_pos group]

theorem landmarks_of_field {node : Node} {kind : FieldKind} (found : node.fieldKind? = some kind)
    (grouped : Bool) : node.landmarks grouped = [.field node kind grouped] := by
  have notGroup : node.isGroupTag ≠ true := fun group => by
    simp [fieldKind?_of_isGroupTag group] at found
  rw [landmarks_eq, if_neg notGroup, found]

theorem landmarks_of_other {node : Node} (group : node.isGroupTag = false)
    (found : node.fieldKind? = none) (grouped : Bool) :
    node.landmarks grouped = landmarksAmong grouped node.children := by
  rw [landmarks_eq, if_neg (Bool.eq_false_iff.mp group), found]

end Node

mutual

/-- Whatever is met at a node lies in all that the node lies in. -/
theorem Node.above_suffix_of_mem_visits {visit : Visit} :
    ∀ {above : List Node} {node : Node}, visit ∈ node.visits above → above <:+ visit.above
  | above, ⟨type, tag, attributes, children, lines⟩, member => by
    rcases List.mem_cons.mp member with here | later
    · exact here ▸ List.suffix_refl above
    · exact (List.suffix_cons _ above).trans (Node.above_suffix_of_mem_visitsAmong later)

theorem Node.above_suffix_of_mem_visitsAmong {visit : Visit} :
    ∀ {above nodes : List Node}, visit ∈ Node.visitsAmong above nodes → above <:+ visit.above
  | above, [], member => by simp [Node.visitsAmong] at member
  | above, child :: rest, member => by
    rcases List.mem_append.mp member with first | later
    · exact Node.above_suffix_of_mem_visits first
    · exact Node.above_suffix_of_mem_visitsAmong later

end

namespace Visit

theorem any_above_of_suffix {visit : Visit} {above : List Node} (suffix : above <:+ visit.above)
    {test : Node → Bool} (held : above.any test = true) : visit.above.any test = true := by
  obtain ⟨node, member, passes⟩ := List.any_eq_true.mp held
  exact List.any_eq_true.mpr ⟨node, suffix.subset member, passes⟩

theorem inField_of_suffix {visit : Visit} {above : List Node} (suffix : above <:+ visit.above)
    (field : above.any Node.isFieldTag = true) : visit.inField = true :=
  any_above_of_suffix suffix field

theorem inGroup_of_suffix {visit : Visit} {above : List Node} (suffix : above <:+ visit.above)
    (group : above.any Node.isGroupTag = true) : visit.inGroup = true :=
  any_above_of_suffix suffix group

end Visit

/-- Nothing inside a field tag is a landmark. -/
theorem filterMap_landmark?_of_field {above nodes : List Node}
    (field : above.any Node.isFieldTag = true) :
    (Node.visitsAmong above nodes).filterMap Visit.landmark? = [] := by
  apply List.filterMap_eq_nil_iff.mpr
  intro visit member
  have inside := Visit.inField_of_suffix (Node.above_suffix_of_mem_visitsAmong member) field
  simp [Visit.landmark?, inside]

theorem filter_isOuter_eq_nil {above nodes : List Node}
    (tagged : above.any Node.isGroupTag = true ∨ above.any Node.isFieldTag = true) :
    (Node.visitsAmong above nodes).filter Visit.isOuter = [] := by
  apply List.filter_eq_nil_iff.mpr
  intro visit member
  have suffix := Node.above_suffix_of_mem_visitsAmong member
  rcases tagged with group | field
  · simp [Visit.isOuter, Visit.inGroup_of_suffix suffix group]
  · simp [Visit.isOuter, Visit.inField_of_suffix suffix field]

mutual

/-- The landmarks at a node outside every field tag are what a walk through it comes to. -/
theorem Node.landmarks_eq_visits :
    ∀ {above : List Node} (node : Node), above.any Node.isFieldTag = false →
      node.landmarks (above.any Node.isGroupTag) = (node.visits above).filterMap Visit.landmark?
  | above, ⟨type, tag, attributes, children, lines⟩, outside => by
    let node : Node := ⟨type, tag, attributes, children, lines⟩
    have free : Visit.inField ⟨above, node⟩ = false := outside
    have deeper (noField : node.isFieldTag = false) :
        Node.landmarksAmong ((node :: above).any Node.isGroupTag) children =
          (Node.visitsAmong (node :: above) children).filterMap Visit.landmark? :=
      Node.landmarksAmong_eq_visits children (by simp [noField, outside])
    rw [List.any_cons] at deeper
    change node.landmarks _ = (node.visits above).filterMap _
    rw [Node.visits_eq, List.filterMap_cons]
    cases group : node.isGroupTag with
    | true =>
      have landmark : Visit.landmark? ⟨above, node⟩ =
          some (.group node (above.any Node.isGroupTag)) := by
        simp [Visit.landmark?, free, group, Visit.inGroup]
      rw [Node.landmarks_of_group group, landmark]
      have inner := deeper (Node.isFieldTag_of_isGroupTag group)
      rw [group] at inner
      exact congrArg _ inner
    | false =>
      cases found : node.fieldKind? with
      | some kind =>
        have landmark : Visit.landmark? ⟨above, node⟩ =
            some (.field node kind (above.any Node.isGroupTag)) := by
          simp [Visit.landmark?, free, group, found, Visit.inGroup]
        -- The reader stops at a field tag; the walk goes on, but finds no landmark inside.
        rw [Node.landmarks_of_field found, landmark,
          filterMap_landmark?_of_field (by simp [Node.isFieldTag, found])]
      | none =>
        have landmark : Visit.landmark? ⟨above, node⟩ = none := by
          simp [Visit.landmark?, free, group, found]
        rw [Node.landmarks_of_other group found, landmark]
        have inner := deeper (by simp [Node.isFieldTag, found])
        rwa [group] at inner

theorem Node.landmarksAmong_eq_visits :
    ∀ {above : List Node} (nodes : List Node), above.any Node.isFieldTag = false →
      Node.landmarksAmong (above.any Node.isGroupTag) nodes =
        (Node.visitsAmong above nodes).filterMap Visit.landmark?
  | above, [], outside => rfl
  | above, child :: rest, outside => by
    rw [Node.landmarksAmong, Node.visitsAmong, List.filterMap_append,
      Node.landmarks_eq_visits child outside, Node.landmarksAmong_eq_visits rest outside]

end

mutual

/-- The landmarks at a node outside all tags are those of the outermost tags there. -/
theorem Node.landmarks_eq_flatMap :
    ∀ {above : List Node} (node : Node), above.any Node.isGroupTag = false →
      above.any Node.isFieldTag = false →
      (((node.visits above).filter Visit.isOuter).map (·.node)).flatMap (Node.landmarks false) =
        node.landmarks false
  | above, ⟨type, tag, attributes, children, lines⟩, noGroup, noField => by
    let node : Node := ⟨type, tag, attributes, children, lines⟩
    change (((node.visits above).filter _).map _).flatMap _ = node.landmarks false
    rw [Node.visits_eq, List.filter_cons]
    cases group : node.isGroupTag with
    | true =>
      have part : Visit.isOuter ⟨above, node⟩ = true := by
        simp [Visit.isOuter, Visit.inGroup, Visit.inField, group, noGroup, noField]
      rw [if_pos part, filter_isOuter_eq_nil (by simp [group])]
      simp
    | false =>
      cases found : node.fieldKind? with
      | some kind =>
        have field : node.isFieldTag = true := by simp [Node.isFieldTag, found]
        have part : Visit.isOuter ⟨above, node⟩ = true := by
          simp [Visit.isOuter, Visit.inGroup, Visit.inField, field, noGroup, noField]
        rw [if_pos part, filter_isOuter_eq_nil (by simp [field])]
        simp
      | none =>
        have field : node.isFieldTag = false := by simp [Node.isFieldTag, found]
        have part : ¬ Visit.isOuter ⟨above, node⟩ = true := by simp [Visit.isOuter, field, group]
        rw [if_neg part, Node.landmarks_of_other group found]
        exact Node.landmarksAmong_eq_flatMap children (by simp [group, noGroup])
          (by simp [field, noField])

theorem Node.landmarksAmong_eq_flatMap :
    ∀ {above : List Node} (nodes : List Node), above.any Node.isGroupTag = false →
      above.any Node.isFieldTag = false →
      (((Node.visitsAmong above nodes).filter Visit.isOuter).map (·.node)).flatMap
        (Node.landmarks false) = Node.landmarksAmong false nodes
  | above, [], _, _ => rfl
  | above, child :: rest, noGroup, noField => by
    rw [Node.visitsAmong, Node.landmarksAmong, List.filter_append, List.map_append,
      List.flatMap_append, Node.landmarks_eq_flatMap child noGroup noField,
      Node.landmarksAmong_eq_flatMap rest noGroup noField]

end

mutual

/-- The form of a tree is the first form tag that a walk through it meets. -/
theorem Node.form?_eq_find? : ∀ (above : List Node) (node : Node),
    node.form? = ((node.visits above).find? fun visit => visit.node.isTag formTag).map (·.node)
  | above, ⟨type, tag, attributes, children, lines⟩ => by
    let node : Node := ⟨type, tag, attributes, children, lines⟩
    change (if node.isTag formTag then some node else Node.formAmong? children) =
      ((node.visits above).find? _).map _
    rw [Node.visits_eq, List.find?_cons]
    cases form : node.isTag formTag with
    | true => simp
    | false => exact Node.formAmong?_eq_find? (node :: above) children

theorem Node.formAmong?_eq_find? : ∀ (above nodes : List Node),
    Node.formAmong? nodes =
      ((Node.visitsAmong above nodes).find? fun visit => visit.node.isTag formTag).map (·.node)
  | above, [] => rfl
  | above, child :: rest => by
    rw [Node.formAmong?, Node.visitsAmong, List.find?_append, Node.form?_eq_find? above child,
      Node.formAmong?_eq_find? above rest]
    cases (child.visits above).find? fun visit => visit.node.isTag formTag <;> rfl

end

namespace Landmark

/-- The tag of a field that is a landmark. -/
def fieldTag? : Landmark → Option Node
  | .field node _ _ => some node
  | .group _ _ => none

/-- The landmark lies in a group. -/
def inGroup : Landmark → Bool
  | .field _ _ grouped => grouped
  | .group _ nested => nested

end Landmark

theorem Visit.inGroup_of_landmark? {visit : Visit} {landmark : Landmark}
    (found : visit.landmark? = some landmark) : landmark.inGroup = visit.inGroup := by
  unfold landmark? at found
  split at found
  · cases found
  · split at found
    · cases found
      rfl
    · obtain ⟨kind, _, same⟩ := Option.map_eq_some_iff.mp found
      exact same ▸ rfl

theorem Visit.landmark?_bind_fieldTag? (visit : Visit) :
    visit.landmark?.bind Landmark.fieldTag? =
      if visit.node.isFieldTag && !visit.inField then some visit.node else none := by
  cases inField : visit.inField with
  | true => simp [landmark?, inField]
  | false =>
    cases group : visit.node.isGroupTag with
    | true => simp [landmark?, inField, group, Landmark.fieldTag?, Node.isFieldTag_of_isGroupTag]
    | false =>
      cases found : visit.node.fieldKind? with
      | none => simp [landmark?, inField, group, found, Node.isFieldTag]
      | some kind => simp [landmark?, inField, group, found, Node.isFieldTag, Landmark.fieldTag?]

namespace Node

/-- What a walk below a node comes to, if the node itself is no field tag. -/
theorem landmarksAmong_children {node : Node} (noField : node.isFieldTag = false) :
    landmarksAmong node.isGroupTag node.children = node.walk.filterMap Visit.landmark? := by
  have among : landmarksAmong ([node].any isGroupTag) node.children =
      (visitsAmong [node] node.children).filterMap Visit.landmark? :=
    landmarksAmong_eq_visits node.children (by simp [noField])
  simpa [walk] using among

theorem filterMap_fieldTag? {node : Node} (noField : node.isFieldTag = false) :
    (landmarksAmong node.isGroupTag node.children).filterMap Landmark.fieldTag? =
      node.fieldTags := by
  rw [landmarksAmong_children noField, fieldTags, List.filterMap_filterMap]
  induction node.walk with
  | nil => rfl
  | cons visit rest ih =>
    rw [List.filterMap_cons, List.filter_cons, ih, Visit.landmark?_bind_fieldTag?]
    cases visit.node.isFieldTag && !visit.inField <;> simp

/-- All that is met in a group lies in a group. -/
theorem inGroup_of_mem_landmarksAmong {group : Node} (isGroup : group.isGroupTag = true)
    {landmark : Landmark} (member : landmark ∈ landmarksAmong true group.children) :
    landmark.inGroup = true := by
  rw [← isGroup, landmarksAmong_children (isFieldTag_of_isGroupTag isGroup)] at member
  obtain ⟨visit, met, found⟩ := List.mem_filterMap.mp member
  rw [Visit.inGroup_of_landmark? found]
  exact Visit.inGroup_of_suffix (above_suffix_of_mem_visitsAmong met) (by simp [isGroup])

/-- An outermost tag lies in no group. -/
theorem inGroup_of_mem_head?_landmarks {part : Node}
    (tag : part.isGroupTag = true ∨ part.isFieldTag = true) {landmark : Landmark}
    (member : landmark ∈ (part.landmarks false).head?) : landmark.inGroup = false := by
  rcases tag with group | field
  · rw [landmarks_of_group group] at member
    cases member
    rfl
  · obtain ⟨kind, found⟩ := Option.isSome_iff_exists.mp field
    rw [landmarks_of_field found] at member
    cases member
    rfl

theorem isOuter_of_mem_outerTags {form part : Node} (member : part ∈ form.outerTags) :
    part.isGroupTag = true ∨ part.isFieldTag = true := by
  obtain ⟨visit, met, rfl⟩ := List.mem_map.mp member
  have isOuter := (List.mem_filter.mp met).2
  simp only [Visit.isOuter, Bool.and_eq_true, Bool.or_eq_true] at isOuter
  exact isOuter.1.1

/-- A form tag is neither a field nor a group. -/
theorem isFieldTag_of_isTag_form {node : Node} (form : node.isTag formTag = true) :
    node.isFieldTag = false := by
  have named : node.tagName? = some formTag := by simpa [isTag] using form
  have unknown : FieldKind.ofTag? formTag = none := by decide
  simp [isFieldTag, fieldKind?, named, unknown]

theorem isGroupTag_of_isTag_form {node : Node} (form : node.isTag formTag = true) :
    node.isGroupTag = false := by
  have named : node.tagName? = some formTag := by simpa [isTag] using form
  have different : formTag ≠ groupTag := by decide
  simp [isGroupTag, isTag, named, different]

end Node

end DocForm
