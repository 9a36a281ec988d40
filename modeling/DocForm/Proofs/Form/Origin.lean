import DocForm.Proofs.Form.Outline

/-! Where the parts of a parsed form come from: every field with its response and its remarks
has been read from one field tag, and no two fields have one id. -/

namespace DocForm

/-- The first form tag that a walk through a document meets. -/
def firstForm? (root : Node) : Option Node :=
  ((root.visits []).find? fun visit => visit.node.isTag formTag).map (·.node)

/-- What the responses to parsed fields are kept under. -/
def ParsedField.entry (parsed : ParsedField) : String × FieldResponse :=
  (parsed.definition.id, parsed.response)

variable {settings : Settings} {root : Node} {form : ParsedForm}

theorem form?_eq_firstForm? (node : Node) : node.form? = firstForm? node :=
  Node.form?_eq_find? [] node

theorem parseForm_of_firstForm? {tag : Node} (found : firstForm? root = some tag) :
    parseForm settings root = readForm settings tag := by
  rw [parseForm, form?_eq_firstForm?, found]

theorem isTag_of_firstForm? {tag : Node} (found : firstForm? root = some tag) :
    tag.isTag formTag = true := by
  obtain ⟨visit, met, same⟩ := Option.map_eq_some_iff.mp found
  have isForm := List.find?_some met
  rwa [same] at isForm

/-- A form is the draft that the landmarks of its tag make. -/
theorem run_of_parseForm (read : parseForm settings root = .ok form) :
    ∃ tag, firstForm? root = some tag ∧ tag.isTag formTag = true ∧
      tag.text? "id" = some form.schema.id ∧ form.schema.title = tag.text? "title" ∧
      Draft.Run settings .empty tag.formLandmarks
        ⟨form.schema.groups, form.responses, form.warnings⟩ := by
  cases found : firstForm? root with
  | none => simp [parseForm, form?_eq_firstForm?, found] at read
  | some tag =>
    rw [parseForm_of_firstForm? found, readForm] at read
    cases named : tag.text? "id" with
    | none => simp [named] at read
    | some id =>
      simp only [named, ite_eq_ok, reduceCtorEq, and_false, false_or] at read
      obtain ⟨draft, taken, result⟩ := bind_eq_ok.mp read.2
      cases pure_eq_ok.mp result
      exact ⟨tag, rfl, isTag_of_firstForm? found, named, rfl, Draft.run_of_foldlM taken⟩

namespace Node

variable {tag : Node}

theorem formLandmarks_eq_flatMap (isForm : tag.isTag formTag = true) :
    tag.formLandmarks = tag.outerTags.flatMap (landmarks false) := by
  have noGroup := isGroupTag_of_isTag_form isForm
  have noField := isFieldTag_of_isTag_form isForm
  exact (landmarksAmong_eq_flatMap tag.children (by simp [noGroup]) (by simp [noField])).symm

theorem filterMap_parsed?_formLandmarks (isForm : tag.isTag formTag = true) :
    tag.formLandmarks.filterMap (Landmark.parsed? settings) = tag.parsedFields settings := by
  have parsed := filterMap_parsed? settings (isFieldTag_of_isTag_form isForm)
  rwa [isGroupTag_of_isTag_form isForm] at parsed

/-- The landmarks of a form are what a walk below its tag comes to. -/
theorem formLandmarks_eq_filterMap (isForm : tag.isTag formTag = true) :
    tag.formLandmarks = tag.walk.filterMap Visit.landmark? := by
  have among := landmarksAmong_children (isFieldTag_of_isTag_form isForm)
  rwa [isGroupTag_of_isTag_form isForm] at among

theorem mem_formLandmarks (isForm : tag.isTag formTag = true) {visit : Visit}
    (met : visit ∈ tag.walk) {landmark : Landmark} (found : visit.landmark? = some landmark) :
    landmark ∈ tag.formLandmarks := by
  rw [formLandmarks_eq_filterMap isForm]
  exact List.mem_filterMap.mpr ⟨visit, met, found⟩

/-- A form does not begin inside a group. -/
theorem inGroup_of_mem_head?_formLandmarks (isForm : tag.isTag formTag = true) :
    ∀ landmark ∈ tag.formLandmarks.head?, landmark.inGroup = false := by
  intro landmark member
  rw [formLandmarks_eq_flatMap isForm, List.head?_flatMap] at member
  obtain ⟨part, present, found⟩ := List.exists_of_findSome?_eq_some member
  exact inGroup_of_mem_head?_landmarks (isOuter_of_mem_outerTags present) found

end Node

theorem foldl_insert_eq_ofList (fields : List ParsedField) :
    fields.foldl (fun known parsed => known.insert parsed.definition.id parsed.response) .empty =
      Dict.ofList (fields.map ParsedField.entry) := by
  induction fields using List.reverseRecOn with
  | nil => rfl
  | append_singleton rest parsed ih =>
    rw [List.foldl_append, List.map_append, ih]
    exact (Dict.ofList_concat _ _ _).symm

theorem distinct_fields_of_parseForm (read : parseForm settings root = .ok form) :
    (form.schema.fields.map (·.id)).Nodup := by
  obtain ⟨tag, _, isForm, _, _, run⟩ := run_of_parseForm read
  have loose := Node.inGroup_of_mem_head?_formLandmarks isForm
  exact run.distinct_fields (Draft.opened_of_loose loose) List.nodup_nil

theorem distinct_groups_of_parseForm (read : parseForm settings root = .ok form) :
    (form.schema.groups.filterMap (·.id)).Nodup := by
  obtain ⟨tag, _, _, _, _, run⟩ := run_of_parseForm read
  exact run.distinct_groups List.nodup_nil

/-- The fields of a form are those read below its tag, each with its response. -/
theorem parsedFields_of_parseForm (read : parseForm settings root = .ok form) :
    ∃ tag, firstForm? root = some tag ∧
      form.schema.fields.Perm ((tag.parsedFields settings).map (·.definition)) ∧
      form.responses = .ofList ((tag.parsedFields settings).map ParsedField.entry) := by
  obtain ⟨tag, found, isForm, _, _, run⟩ := run_of_parseForm read
  refine ⟨tag, found, ?_, ?_⟩
  · have loose := Node.inGroup_of_mem_head?_formLandmarks isForm
    have grown := run.fields (Draft.opened_of_loose loose)
    rw [Node.filterMap_parsed?_formLandmarks isForm] at grown
    simpa [Draft.empty, Draft.fields, FormSchema.fields] using grown
  · have stored := run.responses
    rw [Node.filterMap_parsed?_formLandmarks isForm] at stored
    exact stored.trans (foldl_insert_eq_ofList _)

theorem map_entry_fst (fields : List ParsedField) :
    (fields.map ParsedField.entry).map (·.1) = (fields.map (·.definition)).map (·.id) := by
  simp [ParsedField.entry, Function.comp_def]

theorem parsedField?_eq_some {node : Node} {parsed : ParsedField}
    (found : parsedField? settings node = some parsed) :
    ∃ kind, node.fieldKind? = some kind ∧ readField settings node kind = .ok parsed := by
  cases known : node.fieldKind? with
  | none => simp [parsedField?, parseField, known, Except.toOption] at found
  | some kind =>
    rw [parsedField?_of_fieldKind? known] at found
    exact ⟨kind, rfl, toOption_eq_some.mp found⟩

/-- Each field of a form has been read from a tag, together with its response. -/
theorem readField_of_mem_fields (read : parseForm settings root = .ok form)
    {field : FieldDefinition} (member : field ∈ form.schema.fields) :
    ∃ node kind warnings, node.fieldKind? = some kind ∧
      readField settings node kind =
        .ok ⟨field, responseTo form.responses field.id, warnings⟩ := by
  obtain ⟨tag, _, perm, stored⟩ := parsedFields_of_parseForm read
  obtain ⟨⟨definition, response, warnings⟩, present, rfl⟩ :=
    List.mem_map.mp (perm.mem_iff.mp member)
  obtain ⟨node, _, found⟩ := List.mem_filterMap.mp present
  obtain ⟨kind, known, readTag⟩ := parsedField?_eq_some found
  have distinct : (((tag.parsedFields settings).map ParsedField.entry).map (·.1)).Nodup := by
    rw [map_entry_fst]
    exact (perm.map (·.id)).nodup_iff.mp (distinct_fields_of_parseForm read)
  have listed : form.responses.get? definition.id = some response := by
    rw [stored, Dict.get?_ofList distinct]
    exact List.mem_map.mpr ⟨_, present, rfl⟩
  exact ⟨node, kind, warnings, known, by simpa [responseTo, listed] using readTag⟩

/-- What a walk through a form tag yields. -/
structure WalkYields (settings : Settings) (tag : Node) (form : ParsedForm) : Prop where
  id : tag.text? "id" = some form.schema.id
  title : form.schema.title = tag.text? "title"
  /-- Every field tag that is no part of another field can be read by itself. -/
  readable : ∀ node ∈ tag.fieldTags, ∃ parsed, parseField settings node = .ok (some parsed)
  /-- No group lies in another one, so all group tags are among the outermost tags. -/
  outermost : tag.groupTags = tag.outerTags.filter Node.isGroupTag
  named : ∀ node ∈ tag.groupTags, ∃ id, node.text? "id" = some id ∧ isIdentifier id = true
  groups : form.schema.groups = outline settings tag.outerTags
  fields : form.schema.fields.Perm ((tag.parsedFields settings).map (·.definition))
  responses : form.responses = .ofList ((tag.parsedFields settings).map ParsedField.entry)
  keys : form.responses.keys.Perm (form.schema.fields.map (·.id))
  warnings : form.warnings = (tag.parsedFields settings).flatMap (·.warnings)
  distinctFields : (form.schema.fields.map (·.id)).Nodup
  distinctGroups : (form.schema.groups.filterMap (·.id)).Nodup

/-- A form that can be read is exactly what the walk through its tag yields. -/
theorem walkYields_of_parseForm (read : parseForm settings root = .ok form) :
    ∃ tag, firstForm? root = some tag ∧ WalkYields settings tag form := by
  obtain ⟨tag, found, isForm, id, title, run⟩ := run_of_parseForm read
  obtain ⟨other, sameTag, fields, responses⟩ := parsedFields_of_parseForm read
  cases Option.some.inj (found.symm.trans sameTag)
  have distinctFields := distinct_fields_of_parseForm read
  have distinctEntries : (((tag.parsedFields settings).map ParsedField.entry).map (·.1)).Nodup := by
    rw [map_entry_fst]
    exact (fields.map (·.id)).nodup_iff.mp distinctFields
  -- A group tag inside a group, or one without an id of its own, would have ended the run.
  have metGroup : ∀ visit ∈ tag.walk, visit.inField = false → visit.node.isGroupTag = true →
      visit.inGroup = false ∧ ∃ id, visit.node.text? "id" = some id ∧ isIdentifier id = true := by
    intro visit met outside group
    apply run.group_named
    exact Node.mem_formLandmarks isForm met (by simp [Visit.landmark?, outside, group])
  refine ⟨tag, found, {
    id, title, fields, responses, distinctFields
    readable := ?_
    outermost := ?_
    named := ?_
    groups := ?_
    keys := ?_
    warnings := ?_
    distinctGroups := distinct_groups_of_parseForm read }⟩
  · intro node member
    obtain ⟨visit, met, rfl⟩ := List.mem_map.mp member
    obtain ⟨met, field⟩ := List.mem_filter.mp met
    obtain ⟨isField, outside⟩ : visit.node.isFieldTag = true ∧ visit.inField = false := by
      simpa using field
    obtain ⟨kind, known⟩ := Option.isSome_iff_exists.mp isField
    have landmark : visit.landmark? = some (.field visit.node kind visit.inGroup) := by
      simp [Visit.landmark?, outside, Node.isGroupTag_of_isFieldTag isField, known]
    obtain ⟨parsed, readTag⟩ := run.read (Node.mem_formLandmarks isForm met landmark)
    exact ⟨parsed, by rw [parseField_of_fieldKind? known, readTag]; rfl⟩
  · rw [Node.groupTags, Node.outerTags, List.filter_map, List.filter_filter]
    refine congrArg _ (List.filter_congr fun visit met => ?_)
    cases outside : visit.inField with
    | true => simp [Visit.isOuter, outside]
    | false =>
      cases group : visit.node.isGroupTag with
      | false => simp [group]
      | true => simp [Visit.isOuter, outside, group, (metGroup visit met outside group).1]
  · intro node member
    obtain ⟨visit, met, rfl⟩ := List.mem_map.mp member
    obtain ⟨met, group⟩ := List.mem_filter.mp met
    obtain ⟨isGroup, outside⟩ : visit.node.isGroupTag = true ∧ visit.inField = false := by
      simpa using group
    exact (metGroup visit met outside isGroup).2
  · rw [Node.formLandmarks_eq_flatMap isForm] at run
    exact run.outline (fun part => Node.isOuter_of_mem_outerTags) (by simp [Draft.empty])
  · rw [responses]
    refine (Dict.keys_ofList distinctEntries).trans ?_
    rw [map_entry_fst]
    exact (fields.map (·.id)).symm
  · have remarks := run.warnings
    rwa [Node.filterMap_parsed?_formLandmarks isForm] at remarks

/-- A tag with an id, some attributes and what it holds. -/
def Node.sampleTag (name id : String) (line : Nat) (attributes : List (String × AttributeValue))
    (children : List Node) : Node :=
  ⟨"tag", some name, .ofList (("id", .text id) :: attributes), children, [line]⟩

/-- A fence with a value. -/
def Node.sampleValue (text : String) : Node :=
  ⟨"fence", none, .ofList [("language", .text "value"), ("content", .text text)], [], []⟩

/-- A form with fields before, inside and after its group. One cell of its table is no year. -/
def survey : Node :=
  let name := Node.sampleTag "string-field" "name" 2 [("label", .text "Name")]
    [.sampleValue "Ada\n"]
  let guests := Node.sampleTag "table-field" "guests" 6
    [("label", .text "Guests"), ("columnIds", .list [.text "name", .text "born"]),
      ("columnTypes", .list [.text "string", .text "year"])]
    [.sampleValue "| Name | Born |\n|---|---|\n| Grace | 1906 |\n| Alan | long ago |\n"]
  let notes := Node.sampleTag "string-field" "notes" 14 [("label", .text "Notes")] []
  let party := Node.sampleTag "field-group" "party" 5 [] [⟨"paragraph", none, .empty, [guests], []⟩]
  ⟨"document", none, .empty, [.sampleTag "form" "survey" 1 [] [name, party, notes]], []⟩

theorem exists_parseForm_survey : ∃ form, parseForm .standard survey = .ok form := by
  have readable : (parseForm .standard survey).toOption.isSome = true := by decide +kernel
  obtain ⟨form, found⟩ := Option.isSome_iff_exists.mp readable
  exact ⟨form, toOption_eq_some.mp found⟩

theorem walkYields_survey : ∃ form, parseForm .standard survey = .ok form ∧
    ∃ tag, firstForm? survey = some tag ∧ WalkYields .standard tag form := by
  obtain ⟨form, read⟩ := exists_parseForm_survey
  exact ⟨form, read, walkYields_of_parseForm read⟩

/-- The group without an id comes before the other one, where its first field is. -/
example : (parseForm .standard survey).toOption.map (fun form =>
      form.schema.groups.map fun group => (group.id, group.fields.map (·.id))) =
    some [(none, ["name", "notes"]), (some "party", ["guests"])] := by
  decide +kernel

end DocForm
