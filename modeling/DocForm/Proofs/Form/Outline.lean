import DocForm.Proofs.Form.Draft
import DocForm.Proofs.Lookup

/-! The outline of a form: its groups, and the fields outside them gathered in one group.
Main statement: a form that can be read is what a walk through its tag yields. -/

namespace DocForm

/-- The field that a tag writes, if it is a field tag and can be read. -/
def parsedField? (settings : Settings) (node : Node) : Option ParsedField :=
  (parseField settings node).toOption.join

namespace Node

/-- The fields below a node, each read by itself. -/
def parsedFields (settings : Settings) (node : Node) : List ParsedField :=
  node.fieldTags.filterMap (parsedField? settings)

/-- The group that a group tag writes. -/
def writtenGroup (settings : Settings) (node : Node) : FieldGroup :=
  ⟨node.text? "id", node.text? "title", (node.parsedFields settings).map (·.definition)⟩

end Node

/-- The declarations of the field tags among some tags. -/
def looseFields (settings : Settings) (parts : List Node) : List FieldDefinition :=
  ((parts.filter Node.isFieldTag).filterMap (parsedField? settings)).map (·.definition)

/-- The groups that some outermost tags make: the group tags before the first field tag, a
group without an id for all the field tags, and the group tags after the first of them. -/
def outline (settings : Settings) (parts : List Node) : List FieldGroup :=
  (parts.takeWhile Node.isGroupTag).map (Node.writtenGroup settings) ++
    (if looseFields settings parts = [] then [] else [⟨none, none, looseFields settings parts⟩]) ++
    ((parts.dropWhile Node.isGroupTag).filter Node.isGroupTag).map (Node.writtenGroup settings)

variable {settings : Settings} {draft next : Draft} {node : Node}

theorem parseField_of_fieldKind? {kind : FieldKind} (found : node.fieldKind? = some kind) :
    parseField settings node = some <$> readField settings node kind := by
  simp only [parseField, found]
  rfl

theorem parsedField?_of_fieldKind? {kind : FieldKind} (found : node.fieldKind? = some kind) :
    parsedField? settings node = (readField settings node kind).toOption := by
  rw [parsedField?, parseField_of_fieldKind? found]
  cases readField settings node kind <;> rfl

/-- A landmark that a walk comes to adds what its tag writes. -/
theorem Visit.landmark?_bind_parsed? (visit : Visit) :
    visit.landmark?.bind (Landmark.parsed? settings) =
      (visit.landmark?.bind Landmark.fieldTag?).bind (parsedField? settings) := by
  unfold landmark?
  cases visit.inField with
  | true => rfl
  | false =>
    cases visit.node.isGroupTag with
    | true => rfl
    | false =>
      cases found : visit.node.fieldKind? with
      | none => rfl
      | some kind => simp [Landmark.parsed?, Landmark.fieldTag?, parsedField?_of_fieldKind? found]

theorem filterMap_parsed? (settings : Settings) (noField : node.isFieldTag = false) :
    (Node.landmarksAmong node.isGroupTag node.children).filterMap (Landmark.parsed? settings) =
      node.parsedFields settings := by
  have tags := Node.filterMap_fieldTag? noField
  rw [Node.landmarksAmong_children noField, List.filterMap_filterMap] at tags
  rw [Node.landmarksAmong_children noField, List.filterMap_filterMap, Node.parsedFields, ← tags,
    List.filterMap_filterMap]
  exact List.filterMap_congr fun visit _ => visit.landmark?_bind_parsed?

namespace Draft

/-- A group tag adds the group that it writes. -/
theorem Run.of_group (group : node.isGroupTag = true)
    (run : Run settings draft (node.landmarks false) next) :
    next.groups = draft.groups ++ [node.writtenGroup settings] := by
  rw [Node.landmarks_of_group group] at run
  obtain _ | ⟨step, others⟩ := run
  have inside : ∀ landmark ∈ Node.landmarksAmong true node.children, landmark.inGroup = true :=
    fun _ => Node.inGroup_of_mem_landmarksAmong group
  have parsed := filterMap_parsed? settings (Node.isFieldTag_of_isGroupTag group)
  rw [group] at parsed
  cases step with
  | group named identifier fresh =>
    rw [others.fill_last inside rfl, parsed, Node.writtenGroup, named, List.nil_append]

/-- A field tag adds its field to the group without an id. -/
theorem Run.of_field (field : node.isFieldTag = true)
    (run : Run settings draft (node.landmarks false) next) :
    ∃ parsed, parsedField? settings node = some parsed ∧
      next.groups = addToImplicit parsed.definition draft.groups := by
  obtain ⟨kind, found⟩ := Option.isSome_iff_exists.mp field
  rw [Node.landmarks_of_field found] at run
  obtain _ | ⟨step, _ | _⟩ := run
  cases step with
  | field grouped read fresh =>
    exact ⟨_, by rw [parsedField?_of_fieldKind? found, read]; rfl, rfl⟩

variable {parts : List Node}

/-- Once there is a group without an id, it takes all further field tags. -/
theorem Run.outline_filled (tags : ∀ part ∈ parts, part.isGroupTag = true ∨ part.isFieldTag = true)
    (run : Run settings draft (parts.flatMap (Node.landmarks false)) next)
    {explicit rest : List FieldGroup} (named : ∀ group ∈ explicit, group.isImplicit = false)
    {fields : List FieldDefinition} (opened : draft.groups = explicit ++ ⟨none, none, fields⟩ :: rest) :
    next.groups = explicit ++ ⟨none, none, fields ++ looseFields settings parts⟩ ::
      (rest ++ (parts.filter Node.isGroupTag).map (Node.writtenGroup settings)) := by
  induction parts generalizing draft fields rest with
  | nil =>
    obtain _ | _ := run
    simpa [looseFields] using opened
  | cons part others ih =>
    obtain ⟨middle, first, later⟩ := Run.append run
    have remaining := fun part member => tags part (List.mem_cons_of_mem _ member)
    rcases tags part (List.mem_cons_self ..) with group | field
    · have field := Node.isFieldTag_of_isGroupTag group
      have grown := first.of_group group
      rw [opened, List.append_assoc, List.cons_append] at grown
      rw [ih remaining later grown]
      simp [looseFields, group, field]
    · have group := Node.isGroupTag_of_isFieldTag field
      obtain ⟨parsed, found, grown⟩ := first.of_field field
      rw [opened, addToImplicit_append named] at grown
      rw [ih remaining later grown]
      simp [looseFields, group, field, found]

/-- The outermost tags of a form are gathered into its outline. -/
theorem Run.outline (tags : ∀ part ∈ parts, part.isGroupTag = true ∨ part.isFieldTag = true)
    (run : Run settings draft (parts.flatMap (Node.landmarks false)) next)
    (named : ∀ group ∈ draft.groups, group.isImplicit = false) :
    next.groups = draft.groups ++ DocForm.outline settings parts := by
  induction parts generalizing draft with
  | nil =>
    obtain _ | _ := run
    simp [DocForm.outline, looseFields]
  | cons part others ih =>
    obtain ⟨middle, first, later⟩ := Run.append run
    have remaining := fun part member => tags part (List.mem_cons_of_mem _ member)
    rcases tags part (List.mem_cons_self ..) with group | field
    · have field := Node.isFieldTag_of_isGroupTag group
      have grown := first.of_group group
      have landmark : Landmark.group part false ∈ part.landmarks false := by
        simp [Node.landmarks_of_group group]
      obtain ⟨_, id, written, _⟩ := first.group_named landmark
      -- A group tag without an id is refused, so a written group is never the implicit one.
      have stillNamed : ∀ group ∈ middle.groups, group.isImplicit = false := by
        rw [grown]
        intro other member
        rcases List.mem_append.mp member with old | new
        · exact named other old
        · rw [List.mem_singleton.mp new]
          simp [FieldGroup.isImplicit, Node.writtenGroup, written]
      rw [ih remaining later stillNamed, grown]
      simp [DocForm.outline, looseFields, group, field]
    · have group := Node.isGroupTag_of_isFieldTag field
      obtain ⟨parsed, found, grown⟩ := first.of_field field
      have opened : middle.groups = draft.groups ++ ⟨none, none, [parsed.definition]⟩ :: [] := by
        rw [grown]
        simpa [addToImplicit] using addToImplicit_append named parsed.definition []
      rw [Run.outline_filled remaining later named opened]
      simp [DocForm.outline, looseFields, group, field, found]

end Draft

end DocForm
