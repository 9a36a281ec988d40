import DocForm.Proofs.Field.Lifecycle
import DocForm.Proofs.Form.Origin

/-! Why a form is refused. Main statement: a form whose tag has an id is refused exactly when a
walk through the tag meets an offending node, and with the error of the first such node. -/

namespace DocForm

namespace Visit

/-- The node is the tag of a field, and lies in no other field. -/
def IsField (visit : Visit) : Prop := visit.node.isFieldTag = true ∧ visit.inField = false

/-- The node is the tag of a group, and lies in no field. -/
def IsGroup (visit : Visit) : Prop := visit.node.isGroupTag = true ∧ visit.inField = false

/-- The node gives itself an id. -/
def HasId (visit : Visit) (id : String) : Prop := visit.node.text? "id" = some id

end Visit

/-- What is wrong with a node that a walk meets after others. -/
inductive Offends (settings : Settings) (earlier : List Visit) (visit : Visit) :
    ParseError → Prop where
  | unreadable {error : ParseError} (field : visit.IsField)
      (failed : parseField settings visit.node = .error error) :
      Offends settings earlier visit error
  | repeatedField {parsed : ParsedField} {id : String} {first : Visit} (field : visit.IsField)
      (read : parseField settings visit.node = .ok (some parsed)) (named : visit.HasId id)
      (met : first ∈ earlier) (firstField : first.IsField) (same : first.HasId id) :
      Offends settings earlier visit
        ⟨.duplicateField id first.node.line?, ⟨some id, visit.node.line?⟩⟩
  | nested (group : visit.IsGroup) (inside : visit.inGroup = true) :
      Offends settings earlier visit ⟨.nestedGroup, ⟨none, visit.node.line?⟩⟩
  | nameless (group : visit.IsGroup) (outside : visit.inGroup = false)
      (absent : visit.node.text? "id" = none) :
      Offends settings earlier visit
        ⟨.missingAttribute "id" groupTag, ⟨none, visit.node.line?⟩⟩
  | misnamed {id : String} (group : visit.IsGroup) (outside : visit.inGroup = false)
      (named : visit.HasId id) (malformed : isIdentifier id = false) :
      Offends settings earlier visit ⟨.invalidId id, ⟨none, visit.node.line?⟩⟩
  | repeatedGroup {id : String} {first : Visit} (group : visit.IsGroup)
      (outside : visit.inGroup = false) (named : visit.HasId id)
      (identifier : isIdentifier id = true) (met : first ∈ earlier) (firstGroup : first.IsGroup)
      (same : first.HasId id) :
      Offends settings earlier visit ⟨.duplicateGroup id, ⟨none, visit.node.line?⟩⟩

/-- Some node of a walk offends after those before it. -/
def HasOffence (settings : Settings) (visits : List Visit) : Prop :=
  ∃ earlier visit later error, visits = earlier ++ visit :: later ∧
    Offends settings earlier visit error

variable {settings : Settings} {root tag : Node} {draft : Draft} {earlier : List Visit}
  {visit : Visit} {error : ParseError}

namespace Visit

theorem landmark?_of_isGroup (group : visit.IsGroup) :
    visit.landmark? = some (.group visit.node visit.inGroup) := by
  simp [landmark?, group.1, group.2]

theorem landmark?_of_isField {kind : FieldKind} (field : visit.IsField)
    (known : visit.node.fieldKind? = some kind) :
    visit.landmark? = some (.field visit.node kind visit.inGroup) := by
  simp [landmark?, field.2, Node.isGroupTag_of_isFieldTag field.1, known]

theorem not_isGroup_of_isField (field : visit.IsField) : ¬ visit.IsGroup := fun group =>
  Bool.false_ne_true ((Node.isGroupTag_of_isFieldTag field.1).symm.trans group.1)

/-- A visit comes to a group, to a field or to no landmark. -/
theorem landmark?_cases (visit : Visit) :
    (visit.IsGroup ∧ visit.landmark? = some (.group visit.node visit.inGroup)) ∨
      (visit.IsField ∧ ∃ kind, visit.node.fieldKind? = some kind ∧
        visit.landmark? = some (.field visit.node kind visit.inGroup)) ∨
      (¬ visit.IsGroup ∧ ¬ visit.IsField ∧ visit.landmark? = none) := by
  cases outside : visit.inField with
  | true => exact .inr (.inr (by simp [IsGroup, IsField, landmark?, outside]))
  | false =>
    cases group : visit.node.isGroupTag with
    | true => exact .inl ⟨⟨group, outside⟩, landmark?_of_isGroup ⟨group, outside⟩⟩
    | false =>
      cases known : visit.node.fieldKind? with
      | none =>
        refine .inr (.inr ?_)
        simp [IsGroup, IsField, landmark?, outside, group, known, Node.isFieldTag]
      | some kind =>
        have field : visit.IsField := ⟨by simp [Node.isFieldTag, known], outside⟩
        exact .inr (.inl ⟨field, kind, rfl, landmark?_of_isField field known⟩)

theorem landmark?_bind_parsed?_eq_some {parsed : ParsedField} :
    visit.landmark?.bind (Landmark.parsed? settings) = some parsed ↔
      visit.IsField ∧ parsedField? settings visit.node = some parsed := by
  rw [landmark?_bind_parsed?, landmark?_bind_fieldTag?]
  by_cases field : visit.IsField
  · simp [field, field.1, field.2]
  · simp [field, show ¬ (visit.node.isFieldTag = true ∧ visit.inField = false) from field]

theorem landmark?_bind_groupId?_eq_some {id : String} :
    visit.landmark?.bind Landmark.groupId? = some id ↔ visit.IsGroup ∧ visit.HasId id := by
  obtain ⟨group, found⟩ | ⟨field, kind, _, found⟩ | ⟨noGroup, _, found⟩ := visit.landmark?_cases
  · simp [found, group, Landmark.groupId?, HasId]
  · simp [found, not_isGroup_of_isField field, Landmark.groupId?]
  · simp [found, noGroup]

end Visit

/-- A draft has the fields and the groups of the nodes met so far. -/
structure Draft.Knows (draft : Draft) (earlier : List Visit) : Prop where
  field : ∀ id line, (∃ field, draft.field? id = some field ∧ field.line = line) ↔
    ∃ first ∈ earlier, first.IsField ∧ first.HasId id ∧ first.node.line? = line
  group : ∀ id, draft.hasGroup id = true ↔ ∃ first ∈ earlier, first.IsGroup ∧ first.HasId id

namespace Draft.Run

section FromStart

variable (run : Draft.Run settings .empty (earlier.filterMap Visit.landmark?) draft)
include run

/-- Every field tag that a run has met can be read. -/
theorem exists_parsedField? (met : visit ∈ earlier) (field : visit.IsField) :
    ∃ parsed, parsedField? settings visit.node = some parsed := by
  obtain ⟨kind, known⟩ := Option.isSome_iff_exists.mp field.1
  obtain ⟨parsed, read⟩ := run.read
    (List.mem_filterMap.mpr ⟨visit, met, Visit.landmark?_of_isField field known⟩)
  exact ⟨parsed, by rw [parsedField?_of_fieldKind? known, read]; rfl⟩

variable (loose : ∀ landmark ∈ (earlier.filterMap Visit.landmark?).head?, landmark.inGroup = false)
include loose

/-- The fields of a draft are those of the field tags met so far. -/
theorem mem_fields_iff {field : FieldDefinition} : field ∈ draft.fields ↔
    ∃ first ∈ earlier, first.IsField ∧
      ∃ parsed, parsedField? settings first.node = some parsed ∧ parsed.definition = field := by
  rw [(run.fields (Draft.opened_of_loose loose)).mem_iff]
  simp only [Draft.fields, Draft.empty, List.flatMap_nil, List.nil_append,
    List.filterMap_filterMap, List.mem_map, List.mem_filterMap,
    Visit.landmark?_bind_parsed?_eq_some]
  constructor
  · rintro ⟨parsed, ⟨first, met, isField, found⟩, same⟩
    exact ⟨first, met, isField, parsed, found, same⟩
  · rintro ⟨first, met, isField, parsed, found, same⟩
    exact ⟨parsed, ⟨first, met, isField, found⟩, same⟩

/-- A run from the beginning of a form makes known all that it has met. -/
theorem knows : draft.Knows earlier := by
  have distinct := run.distinct_fields (Draft.opened_of_loose loose) List.nodup_nil
  constructor
  · intro id line
    simp only [Draft.field?, find?_key_eq_some_iff distinct, run.mem_fields_iff loose]
    constructor
    · rintro ⟨field, ⟨⟨first, met, isField, parsed, found, rfl⟩, rfl⟩, rfl⟩
      obtain ⟨kind, _, read⟩ := parsedField?_eq_some found
      obtain ⟨named, sameLine⟩ := id_and_line_of_readField read
      exact ⟨first, met, isField, named, sameLine.symm⟩
    · rintro ⟨first, met, isField, named, rfl⟩
      obtain ⟨parsed, found⟩ := run.exists_parsedField? met isField
      obtain ⟨kind, _, read⟩ := parsedField?_eq_some found
      obtain ⟨sameId, sameLine⟩ := id_and_line_of_readField read
      refine ⟨parsed.definition, ⟨⟨first, met, isField, parsed, found, rfl⟩, ?_⟩, sameLine⟩
      exact Option.some.inj (sameId.symm.trans named)
  · intro id
    rw [Draft.hasGroup_iff, run.groupIds]
    simp [Draft.empty, List.filterMap_filterMap, Visit.landmark?_bind_groupId?_eq_some]

end FromStart

end Draft.Run

/-- Take what a visit comes to, if it comes to anything. -/
def Draft.meet (settings : Settings) (draft : Draft) (visit : Visit) : Except ParseError Draft :=
  match visit.landmark? with
  | some landmark => draft.step settings landmark
  | none => .ok draft

theorem foldlM_meet (visits : List Visit) :
    visits.foldlM (Draft.meet settings) draft =
      (visits.filterMap Visit.landmark?).foldlM (Draft.step settings) draft := by
  rw [List.foldlM_filterMap]
  refine congrArg (fun take => visits.foldlM take draft) ?_
  funext known visit
  unfold Draft.meet
  cases visit.landmark? <;> rfl

namespace Draft.Knows

theorem openGroup_eq_error_iff (knows : draft.Knows earlier) (group : visit.IsGroup) :
    draft.openGroup visit.node visit.inGroup = .error error ↔
      Offends settings earlier visit error := by
  constructor
  · intro failed
    unfold Draft.openGroup at failed
    cases inside : visit.inGroup with
    | true =>
      simp only [inside, if_true, Except.error.injEq] at failed
      exact failed ▸ .nested group inside
    | false =>
      simp only [inside, Bool.false_eq_true, if_false] at failed
      cases named : visit.node.text? "id" with
      | none =>
        simp only [named, Except.error.injEq] at failed
        exact failed ▸ .nameless group inside named
      | some id =>
        simp only [named] at failed
        split at failed
        · rename_i malformed
          cases failed
          exact .misnamed group inside named (by simpa using malformed)
        · rename_i identifier
          split at failed
          · rename_i taken
            cases failed
            obtain ⟨first, met, firstGroup, same⟩ := (knows.group _).mp taken
            exact .repeatedGroup group inside named (by simpa using identifier) met firstGroup same
          · cases failed
  · intro offends
    cases offends with
    | unreadable field | repeatedField field =>
      -- The other offences are those of field tags, and no tag is of both sorts.
      exact absurd group (Visit.not_isGroup_of_isField field)
    | nested _ inside => simp [Draft.openGroup, inside]
    | nameless _ outside absent => simp [Draft.openGroup, outside, absent]
    | misnamed _ outside named malformed =>
      rw [Visit.HasId] at named
      simp [Draft.openGroup, outside, named, malformed]
    | repeatedGroup _ outside named identifier met firstGroup same =>
      have taken := (knows.group _).mpr ⟨_, met, firstGroup, same⟩
      rw [Visit.HasId] at named
      simp [Draft.openGroup, outside, named, identifier, taken]

theorem addField_eq_error_iff (knows : draft.Knows earlier) {parsed : ParsedField}
    {grouped : Bool} : draft.addField parsed grouped = .error error ↔
      ∃ first ∈ earlier, first.IsField ∧ first.HasId parsed.definition.id ∧
        error = ⟨.duplicateField parsed.definition.id first.node.line?,
          ⟨some parsed.definition.id, parsed.definition.line⟩⟩ := by
  unfold Draft.addField
  constructor
  · intro failed
    cases found : draft.field? parsed.definition.id with
    | none => simp [found] at failed
    | some field =>
      simp only [found, Except.error.injEq] at failed
      obtain ⟨first, met, isField, named, sameLine⟩ := (knows.field _ _).mp ⟨field, found, rfl⟩
      exact ⟨first, met, isField, named, by rw [sameLine, ← failed]⟩
  · rintro ⟨first, met, isField, named, rfl⟩
    obtain ⟨field, found, sameLine⟩ := (knows.field _ _).mpr ⟨first, met, isField, named, rfl⟩
    simp [found, sameLine]

theorem step_field_eq_error_iff (knows : draft.Knows earlier) (field : visit.IsField)
    {kind : FieldKind} (known : visit.node.fieldKind? = some kind) {grouped : Bool} :
    draft.step settings (.field visit.node kind grouped) = .error error ↔
      Offends settings earlier visit error := by
  have sameReading : parseField settings visit.node = some <$> readField settings visit.node kind :=
    parseField_of_fieldKind? known
  rw [Draft.step, bind_eq_error]
  constructor
  · rintro (failed | ⟨parsed, read, failed⟩)
    · exact .unreadable field (by rw [sameReading, failed]; rfl)
    · obtain ⟨first, met, firstField, same, rfl⟩ := knows.addField_eq_error_iff.mp failed
      obtain ⟨named, sameLine⟩ := id_and_line_of_readField read
      rw [sameLine]
      exact .repeatedField field (by rw [sameReading, read]; rfl) named met firstField same
  · intro offends
    cases offends with
    | unreadable _ failed =>
      rw [sameReading] at failed
      cases read : readField settings visit.node kind with
      | error other =>
        rw [read] at failed
        cases failed
        exact .inl rfl
      | ok parsed =>
        rw [read] at failed
        cases failed
    | repeatedField _ read named met firstField same =>
      have read := readField_of_parseField known read
      obtain ⟨sameId, sameLine⟩ := id_and_line_of_readField read
      cases Option.some.inj (sameId.symm.trans named)
      refine .inr ⟨_, read, knows.addField_eq_error_iff.mpr ⟨_, met, firstField, same, ?_⟩⟩
      rw [sameLine]
    | nested group | nameless group | misnamed group | repeatedGroup group =>
      exact absurd group (Visit.not_isGroup_of_isField field)

/-- A node is refused by a draft that knows the nodes before it exactly for what is wrong with it
after them. -/
theorem meet_eq_error_iff (knows : draft.Knows earlier) :
    draft.meet settings visit = .error error ↔ Offends settings earlier visit error := by
  obtain ⟨group, found⟩ | ⟨field, kind, known, found⟩ | ⟨noGroup, noField, found⟩ :=
    visit.landmark?_cases
  · rw [Draft.meet, found]
    exact knows.openGroup_eq_error_iff group
  · rw [Draft.meet, found]
    exact knows.step_field_eq_error_iff field known
  · simp only [Draft.meet, found, reduceCtorEq, false_iff]
    intro offends
    cases offends <;> contradiction

end Draft.Knows

section Walk

variable {later : List Visit} (isForm : tag.isTag formTag = true)
include isForm

theorem foldlM_step_formLandmarks :
    tag.formLandmarks.foldlM (Draft.step settings) draft =
      tag.walk.foldlM (Draft.meet settings) draft := by
  rw [Node.formLandmarks_eq_filterMap isForm, foldlM_meet]

/-- Whatever a walk has taken so far is known. -/
theorem knows_of_foldlM (split : tag.walk = earlier ++ later)
    (taken : earlier.foldlM (Draft.meet settings) .empty = .ok draft) : draft.Knows earlier := by
  rw [foldlM_meet] at taken
  refine Draft.Run.knows (Draft.run_of_foldlM taken) fun landmark member => ?_
  apply Node.inGroup_of_mem_head?_formLandmarks isForm landmark
  rw [Node.formLandmarks_eq_filterMap isForm, split, List.filterMap_append, List.head?_append,
    Option.mem_def.mp member]
  rfl

/-- A walk is refused with the error of the first node that offends. -/
theorem foldlM_meet_eq_error_iff (split : tag.walk = earlier ++ later) :
    earlier.foldlM (Draft.meet settings) .empty = .error error ↔
      ∃ before visit after draft, earlier = before ++ visit :: after ∧
        before.foldlM (Draft.meet settings) .empty = .ok draft ∧
        Offends settings before visit error := by
  rw [foldlM_eq_error]
  constructor
  · rintro ⟨before, visit, after, draft, rfl, taken, failed⟩
    have knows := knows_of_foldlM isForm (by simpa using split) taken
    exact ⟨before, visit, after, draft, rfl, taken, knows.meet_eq_error_iff.mp failed⟩
  · rintro ⟨before, visit, after, draft, rfl, taken, offends⟩
    have knows := knows_of_foldlM isForm (by simpa using split) taken
    exact ⟨before, visit, after, draft, rfl, taken, knows.meet_eq_error_iff.mpr offends⟩

/-- A walk is taken to its end exactly when it meets no offending node. -/
theorem exists_foldlM_meet_iff (split : tag.walk = earlier ++ later) :
    (∃ draft, earlier.foldlM (Draft.meet settings) .empty = .ok draft) ↔
      ¬ HasOffence settings earlier := by
  constructor
  · rintro ⟨draft, taken⟩ ⟨before, visit, after, error, rfl, offends⟩
    obtain ⟨middle, next, first, here⟩ := exists_of_foldlM_eq_ok taken
    have knows := knows_of_foldlM isForm (by simpa using split) first
    rw [knows.meet_eq_error_iff.mpr offends] at here
    cases here
  · intro blameless
    cases taken : earlier.foldlM (Draft.meet settings) .empty with
    | ok draft => exact ⟨draft, rfl⟩
    | error error =>
      obtain ⟨before, visit, after, _, same, _, offends⟩ :=
        (foldlM_meet_eq_error_iff isForm split).mp taken
      exact absurd ⟨before, visit, after, error, same, offends⟩ blameless

end Walk

theorem parseForm_eq_error_iff {id : String} (found : firstForm? root = some tag)
    (named : tag.text? "id" = some id) (identifier : isIdentifier id = true) :
    parseForm settings root = .error error ↔
      tag.walk.foldlM (Draft.meet settings) .empty = .error error := by
  rw [parseForm_of_firstForm? found, readForm,
    ← foldlM_step_formLandmarks (isTag_of_firstForm? found)]
  simp only [named, identifier, Bool.not_true, Bool.false_eq_true, if_false, bind_eq_error]
  constructor
  · rintro (failed | ⟨_, _, failed⟩)
    · exact failed
    · cases failed
  · exact .inl

/-- A form whose tag has an id is refused exactly when a walk through the tag meets an offending
node, and with the error of the first such node. -/
theorem refused_iff_firstOffence {id : String} (found : firstForm? root = some tag)
    (named : tag.text? "id" = some id) (identifier : isIdentifier id = true) :
    ((∃ error, parseForm settings root = .error error) ↔ HasOffence settings tag.walk) ∧
      ∀ error, parseForm settings root = .error error ↔
        ∃ earlier visit later, tag.walk = earlier ++ visit :: later ∧
          ¬ HasOffence settings earlier ∧ Offends settings earlier visit error := by
  have isForm := isTag_of_firstForm? found
  have whole : tag.walk = tag.walk ++ [] := (List.append_nil _).symm
  simp only [parseForm_eq_error_iff found named identifier]
  constructor
  · rw [← not_iff_not, ← exists_foldlM_meet_iff isForm whole]
    cases tag.walk.foldlM (Draft.meet settings) .empty <;> simp
  · intro error
    rw [foldlM_meet_eq_error_iff isForm whole]
    constructor
    · rintro ⟨earlier, visit, later, draft, split, taken, offends⟩
      have blameless := (exists_foldlM_meet_iff isForm split).mp ⟨draft, taken⟩
      exact ⟨earlier, visit, later, split, blameless, offends⟩
    · rintro ⟨earlier, visit, later, split, blameless, offends⟩
      obtain ⟨draft, taken⟩ := (exists_foldlM_meet_iff isForm split).mpr blameless
      exact ⟨earlier, visit, later, draft, split, taken, offends⟩

/-- A form with one id for two fields far apart, and with a group without an id after them. -/
def reunionForm : Node :=
  let name (line : Nat) := Node.sampleTag "string-field" "name" line [("label", .text "Name")] []
  let guests := Node.sampleTag "field-group" "guests" 5 [] [name 7]
  let unnamed : Node := ⟨"tag", some "field-group", .empty, [], [9]⟩
  .sampleTag "form" "reunion" 1 [] [name 3, guests, unnamed]

/-- A document with that form. -/
def reunion : Node := ⟨"document", none, .empty, [reunionForm], []⟩

/-- Both lines of the id are named, and the group without an id is not reached. -/
theorem refused_reunion :
    ∃ error, parseForm .standard reunion = .error error ∧
      error.message =
        "duplicate field id 'name' (first defined at line 3), field: name, line: 7" ∧
      ∃ earlier visit later, reunionForm.walk = earlier ++ visit :: later ∧
        ¬ HasOffence .standard earlier ∧ Offends .standard earlier visit error := by
  have refused : (match parseForm .standard reunion with
      | .error error => some error.message
      | .ok _ => none) =
        some "duplicate field id 'name' (first defined at line 3), field: name, line: 7" := by
    decide +kernel
  have first : firstForm? reunion = some reunionForm := by rfl
  have named : reunionForm.text? "id" = some "reunion" := by rfl
  have identifier : isIdentifier "reunion" = true := by decide
  cases read : parseForm .standard reunion with
  | ok form => simp [read] at refused
  | error error =>
    rw [read] at refused
    have cause := ((refused_iff_firstOffence first named identifier).2 error).mp read
    exact ⟨error, rfl, Option.some.inj refused, cause⟩

end DocForm
