import DocForm.Proofs.Field.Defaults
import DocForm.Proofs.Form.Origin

/-! What the defaults of a reader change in reading a form. Main statement: two readings that are
equally strict fail with one error or give one form, but for the roles and priorities that the tags
of its fields leave open. -/

namespace DocForm

/-- Two declarations, read from one of the field tags of a form, are the same but for what this tag
leaves open. -/
def FieldDefinition.SameIn (first second : Settings) (tag : Node) (one other : FieldDefinition) :
    Prop :=
  ∃ node ∈ tag.fieldTags, one.SameBut first second node other

/-- Two groups, read from one form tag, are the same but for what the tags of their fields leave
open. -/
structure FieldGroup.SameBut (first second : Settings) (tag : Node) (one other : FieldGroup) :
    Prop where
  id : one.id = other.id
  title : one.title = other.title
  fields : List.Forall₂ (FieldDefinition.SameIn first second tag) one.fields other.fields

/-- Two forms, read from one tag, are the same but for what the tags of their fields leave open. -/
structure ParsedForm.SameBut (first second : Settings) (tag : Node) (one other : ParsedForm) :
    Prop where
  id : one.schema.id = other.schema.id
  title : one.schema.title = other.schema.title
  groups : List.Forall₂ (FieldGroup.SameBut first second tag) one.schema.groups other.schema.groups
  responses : one.responses = other.responses
  warnings : one.warnings = other.warnings

/-- Two drafts of a form are the same but for what the tags of their fields leave open. -/
structure Draft.SameBut (first second : Settings) (tag : Node) (one other : Draft) : Prop where
  groups : List.Forall₂ (FieldGroup.SameBut first second tag) one.groups other.groups
  responses : one.responses = other.responses
  warnings : one.warnings = other.warnings

variable {first second : Settings} {tag : Node}

section Groups

variable {groups others : List FieldGroup} {field otherField : FieldDefinition}

namespace FieldGroup.SameBut

variable {group other : FieldGroup}

theorem isImplicit_eq (same : group.SameBut first second tag other) :
    group.isImplicit = other.isImplicit := by
  rw [isImplicit, isImplicit, same.id]

theorem add (same : group.SameBut first second tag other)
    (sameField : field.SameIn first second tag otherField) :
    (group.add field).SameBut first second tag (other.add otherField) where
  id := same.id
  title := same.title
  fields := List.rel_append same.fields (.cons sameField .nil)

end FieldGroup.SameBut

theorem addToLast_same (same : List.Forall₂ (FieldGroup.SameBut first second tag) groups others)
    (sameField : field.SameIn first second tag otherField) :
    List.Forall₂ (FieldGroup.SameBut first second tag) (addToLast field groups)
      (addToLast otherField others) := by
  induction same with
  | nil => exact .nil
  | cons sameGroup rest ih =>
    cases rest with
    | nil => exact .cons (sameGroup.add sameField) .nil
    | cons => exact .cons sameGroup ih

theorem addToImplicit_same (same : List.Forall₂ (FieldGroup.SameBut first second tag) groups others)
    (sameField : field.SameIn first second tag otherField) :
    List.Forall₂ (FieldGroup.SameBut first second tag) (addToImplicit field groups)
      (addToImplicit otherField others) := by
  induction same with
  | nil => exact .cons ⟨rfl, rfl, .cons sameField .nil⟩ .nil
  | cons sameGroup rest ih =>
    rw [addToImplicit, addToImplicit, sameGroup.isImplicit_eq]
    split
    · exact .cons (sameGroup.add sameField) rest
    · exact .cons sameGroup ih

end Groups

namespace Draft.SameBut

variable {draft other : Draft}

/-- Both drafts have fields with the same ids, from the same lines. -/
theorem keys_eq (same : draft.SameBut first second tag other) :
    (draft.fields.map fun field => (field.id, field.line)) =
      other.fields.map fun field => (field.id, field.line) := by
  have related := List.rel_flatMap same.groups fun _ _ sameGroup => sameGroup.fields
  rw [← List.forall₂_eq_eq_eq, List.forall₂_map_left_iff, List.forall₂_map_right_iff]
  refine related.imp ?_
  rintro field otherField ⟨_, _, sameField⟩
  rw [sameField.id_eq, sameField.line_eq]

theorem field?_line_eq (same : draft.SameBut first second tag other) (id : String) :
    (draft.field? id).map (·.line) = (other.field? id).map (·.line) := by
  have byKey (draft : Draft) : (draft.field? id).map (·.line) =
      ((draft.fields.map fun field => (field.id, field.line)).find? (·.1 == id)).map (·.2) := by
    simp [Draft.field?, List.find?_map, Function.comp_def]
  rw [byKey, byKey, same.keys_eq]

theorem groupIds_eq (same : draft.SameBut first second tag other) :
    draft.groups.map (·.id) = other.groups.map (·.id) := by
  rw [← List.forall₂_eq_eq_eq, List.forall₂_map_left_iff, List.forall₂_map_right_iff]
  exact same.groups.imp fun _ _ sameGroup => sameGroup.id

theorem hasGroup_eq (same : draft.SameBut first second tag other) (id : String) :
    draft.hasGroup id = other.hasGroup id := by
  have byId (draft : Draft) : draft.hasGroup id = (draft.groups.map (·.id)).any (· == some id) := by
    simp [Draft.hasGroup, Function.comp_def]
  rw [byId, byId, same.groupIds_eq]

theorem openGroup_alike (same : draft.SameBut first second tag other) (node : Node)
    (nested : Bool) : Alike (Draft.SameBut first second tag) (draft.openGroup node nested)
      (other.openGroup node nested) := by
  cases nested with
  | true => exact .failed _
  | false =>
    simp only [openGroup, Bool.false_eq_true, if_false, same.hasGroup_eq]
    cases node.text? "id" with
    | none => exact .failed _
    | some id =>
      dsimp only
      split_ifs
      · exact .failed _
      · exact .failed _
      · exact .read {
          groups := List.rel_append same.groups (.cons ⟨rfl, rfl, .nil⟩ .nil)
          responses := same.responses
          warnings := same.warnings }

theorem addField_alike (same : draft.SameBut first second tag other) {node : Node}
    (listed : node ∈ tag.fieldTags) {parsed otherParsed : ParsedField}
    (sameField : parsed.SameBut first second node otherParsed) (grouped : Bool) :
    Alike (Draft.SameBut first second tag) (draft.addField parsed grouped)
      (other.addField otherParsed grouped) := by
  have sameId := sameField.definition.id_eq
  have known := same.field?_line_eq otherParsed.definition.id
  unfold addField
  dsimp only
  rw [sameId, sameField.definition.line_eq, sameField.response, sameField.warnings,
    same.responses, same.warnings]
  cases mine : draft.field? otherParsed.definition.id with
  | some old =>
    cases theirs : other.field? otherParsed.definition.id with
    | none => simp [mine, theirs] at known
    | some otherOld =>
      -- The error speaks of the line of the earlier field, so the lines have to agree as well.
      have sameLine : old.line = otherOld.line := by simpa [mine, theirs] using known
      simp only [sameLine]
      exact .failed _
  | none =>
    cases theirs : other.field? otherParsed.definition.id with
    | some otherOld => simp [mine, theirs] at known
    | none =>
      have sameDefinition : parsed.definition.SameIn first second tag otherParsed.definition :=
        ⟨node, listed, sameField.definition⟩
      refine .read ⟨?_, rfl, rfl⟩
      cases grouped with
      | true => exact addToLast_same same.groups sameDefinition
      | false => exact addToImplicit_same same.groups sameDefinition

/-- One landmark of a form keeps two drafts the same. -/
theorem step_alike (sameStrict : first.strict = second.strict)
    (same : draft.SameBut first second tag other) {landmark : Landmark}
    (listed : ∀ node ∈ landmark.fieldTag?, node ∈ tag.fieldTags) :
    Alike (Draft.SameBut first second tag) (draft.step first landmark)
      (other.step second landmark) := by
  cases landmark with
  | group node nested => exact same.openGroup_alike node nested
  | field node kind grouped =>
    refine (readField_alike sameStrict node kind).bind fun parsed otherParsed sameField => ?_
    exact same.addField_alike (listed node rfl) sameField grouped

end Draft.SameBut

/-- The tags of a form's fields have the ids of its fields. -/
theorem Draft.Run.fieldIds {settings : Settings} {draft next : Draft} {landmarks : List Landmark}
    (run : Run settings draft landmarks next) :
    (landmarks.filterMap Landmark.fieldTag?).map (·.text? "id") =
      ((landmarks.filterMap (Landmark.parsed? settings)).map (·.definition.id)).map some := by
  induction run with
  | done => rfl
  | more step others ih =>
    rw [filterMap_cons_toList, filterMap_cons_toList, List.map_append, ih]
    cases step with
    | group => rfl
    | field grouped read fresh =>
      simp [Landmark.fieldTag?, Landmark.parsed?, read, Except.toOption,
        (id_and_line_of_readField read).1]

theorem Node.filterMap_fieldTag?_formLandmarks (isForm : tag.isTag formTag = true) :
    tag.formLandmarks.filterMap Landmark.fieldTag? = tag.fieldTags := by
  have tags := Node.filterMap_fieldTag? (Node.isFieldTag_of_isTag_form isForm)
  rwa [Node.isGroupTag_of_isTag_form isForm] at tags

theorem distinct_tags_of_parseForm {settings : Settings} {root : Node} {form : ParsedForm}
    (found : firstForm? root = some tag) (read : parseForm settings root = .ok form) :
    (tag.fieldTags.map (·.text? "id")).Nodup := by
  obtain ⟨_, foundSame, isForm, _, _, run⟩ := run_of_parseForm read
  obtain ⟨_, foundOther, fields, _⟩ := parsedFields_of_parseForm read
  cases found.symm.trans foundSame
  cases found.symm.trans foundOther
  have distinct := (fields.map (·.id)).nodup_iff.mp (distinct_fields_of_parseForm read)
  rw [← Node.filterMap_fieldTag?_formLandmarks isForm, run.fieldIds,
    Node.filterMap_parsed?_formLandmarks isForm]
  rw [List.map_map] at distinct
  exact distinct.map fun _ _ => Option.some.inj

theorem readForm_alike (sameStrict : first.strict = second.strict)
    (isForm : tag.isTag formTag = true) :
    Alike (ParsedForm.SameBut first second tag) (readForm first tag) (readForm second tag) := by
  unfold readForm
  dsimp only
  cases tag.text? "id" with
  | none => exact .failed _
  | some id =>
    dsimp only
    split
    · exact .failed _
    · have start : Draft.SameBut first second tag .empty .empty := ⟨.nil, rfl, rfl⟩
      have taken : Alike (Draft.SameBut first second tag)
          (tag.formLandmarks.foldlM (Draft.step first) .empty)
          (tag.formLandmarks.foldlM (Draft.step second) .empty) := by
        refine Alike.foldlM (fun landmark member _ _ same => ?_) start
        apply same.step_alike sameStrict
        intro node listed
        rw [← Node.filterMap_fieldTag?_formLandmarks isForm]
        exact List.mem_filterMap.mpr ⟨landmark, member, listed⟩
      exact taken.bind fun _ _ same =>
        .read ⟨rfl, rfl, same.groups, same.responses, same.warnings⟩

/-- The defaults of a reader show nowhere else: equally strict readings of a document fail with one
error, or give one form but for the roles and priorities that the tags of its fields do not write.
No two of these tags have one id, so each field is told by its own tag. -/
theorem same_but_defaults (sameStrict : first.strict = second.strict) (root : Node) :
    (∃ error, parseForm first root = .error error ∧ parseForm second root = .error error) ∨
      ∃ tag one other, firstForm? root = some tag ∧ (tag.fieldTags.map (·.text? "id")).Nodup ∧
        parseForm first root = .ok one ∧ parseForm second root = .ok other ∧
        one.SameBut first second tag other := by
  cases found : firstForm? root with
  | none =>
    refine .inl ⟨.missingForm, ?_, ?_⟩
    all_goals rw [parseForm, form?_eq_firstForm?, found]
  | some tag =>
    have alike := readForm_alike sameStrict (isTag_of_firstForm? found)
    rw [← parseForm_of_firstForm? found, ← parseForm_of_firstForm? found] at alike
    rcases alike.cases with failed | ⟨one, other, read, otherRead, same⟩
    · exact .inl failed
    · exact .inr ⟨tag, one, other, rfl, distinct_tags_of_parseForm found read, read, otherRead,
        same⟩

/-- A form whose first field writes its role and whose second one writes its priority. -/
def contract : Node :=
  .sampleTag "form" "contract" 1 []
    [.sampleTag "string-field" "client" 2 [("label", .text "Client"), ("role", .text "user")]
      [.sampleValue "Ada\n"],
    .sampleTag "number-field" "fee" 3 [("label", .text "Fee"), ("priority", .text "high")]
      [.sampleValue "none yet\n"]]

/-- A reader whose defaults are not the standard ones. -/
def reviewing : Settings := ⟨"reviewer", .low, false⟩

theorem same_but_defaults_contract :
    ∃ tag one other, firstForm? contract = some tag ∧ parseForm .standard contract = .ok one ∧
      parseForm reviewing contract = .ok other ∧ one.SameBut .standard reviewing tag other := by
  have readable : (parseForm .standard contract).toOption.isSome = true := by decide +kernel
  obtain ⟨form, found⟩ := Option.isSome_iff_exists.mp readable
  have read := toOption_eq_some.mp found
  have sameStrict : Settings.standard.strict = reviewing.strict := rfl
  rcases same_but_defaults sameStrict contract with
    ⟨error, failed, _⟩ | ⟨tag, one, other, isTag, _, read, otherRead, same⟩
  · cases read.symm.trans failed
  · exact ⟨tag, one, other, isTag, read, otherRead, same⟩

/-- Each field keeps what its tag writes and takes the rest from the reader. -/
example : [Settings.standard, reviewing].map (fun settings =>
      (parseForm settings contract).toOption.map fun form =>
        form.schema.fields.map fun field => (field.role, field.priority)) =
    [some [("user", .medium), ("agent", .high)], some [("user", .low), ("reviewer", .high)]] := by
  decide +kernel

end DocForm
