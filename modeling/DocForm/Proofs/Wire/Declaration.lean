import DocForm.Proofs.Wire.Answer
import DocForm.Proofs.Wire.Document
import DocForm.Wire.Declaration

/-! Declarations read back. Main statement: a declaration, and all that is made of declarations up
to whole forms, is read again from what is written of it, although the limits of a kind are written
flat among the other parts. -/

namespace DocForm

open Json.Members

instance : LawfulVocabulary ColumnType := ⟨by intro type; cases type <;> rfl⟩

instance : LawfulVocabulary CheckboxMode := ⟨by intro mode; cases mode <;> rfl⟩

instance : LawfulVocabulary ApprovalMode := ⟨by intro mode; cases mode <;> rfl⟩

instance : LawfulVocabulary Priority := ⟨by intro priority; cases priority <;> rfl⟩

theorem faithful_option : Faithful FieldOption.ofJson? FieldOption.toJson := by
  intro json option found
  simp only [FieldOption.ofJson?, bind_eq_some, pure_eq_some] at found
  obtain ⟨members, _, id, readId, label, readLabel, rfl⟩ := found
  rw [FieldOption.toJson, FieldOption.ofJson?, record?_obj]
  · simp only [Option.bind_eq_bind, Option.bind_some]
    rw [faithful_text.required readId, faithful_text.required readLabel]
    · rfl
    all_goals simp
  · exact follow_one.append follow_one
  · decide

theorem faithful_columnAt (depth : Json.Depth) :
    Faithful (TableColumn.readAt? depth) TableColumn.toJson := by
  intro json column found
  simp only [TableColumn.readAt?, bind_eq_some, pure_eq_some] at found
  obtain ⟨members, _, id, readId, label, readLabel, type, readType, required, readRequired, rfl⟩ :=
    found
  rw [TableColumn.toJson, TableColumn.readAt?, record?_obj]
  · simp only [Option.bind_eq_bind, Option.bind_some]
    rw [faithful_text.required readId, faithful_text.required readLabel,
      (faithful_case depth).required readType, faithful_bool.defaulted rfl readRequired]
    · rfl
    all_goals simp
  · exact ((follow_one.append follow_one).append follow_one).append follow_one
  · decide

/-- Parameters are written beside the id, so none of them is called so. -/
theorem params_of_ofJson? {members : Json.Members} {id : String} {params : Dict AttributeValue}
    (found : ValidatorRef.ofJson? (.obj members) = some (.configured id params)) :
    ∀ param ∈ params.entries, param.1 ≠ "id" ∧ param.2.IsStable := by
  simp only [ValidatorRef.ofJson?, bind_eq_some, pure_eq_some,
    ValidatorRef.configured.injEq] at found
  obtain ⟨_, _, rfl, rfl⟩ := found
  intro param member
  obtain ⟨⟨name, json⟩, present, rfl⟩ := List.mem_map.mp (mem_of_mem_orderEntries member)
  obtain ⟨_, apart⟩ := List.mem_filter.mp present
  exact ⟨by simpa using apart, AttributeValue.isStable_ofJson json⟩

theorem faithful_validator : Faithful ValidatorRef.ofJson? ValidatorRef.toJson := by
  intro json validator found
  cases validator with
  | named id => rfl
  | configured id params =>
    obtain ⟨members, rfl⟩ : ∃ members, json = .obj members := by
      cases json with
      | obj members => exact ⟨members, rfl⟩
      | _ => cases found
    have kept := params_of_ofJson? found
    have others : (params.entries.map fun param => (param.1, param.2.toJson)).filter
        (fun member => member.1 ≠ "id") =
          params.entries.map fun param => (param.1, param.2.toJson) := by
      rw [List.filter_eq_self]
      rintro member present
      obtain ⟨param, listed, rfl⟩ := List.mem_map.mp present
      simpa using (kept param listed).1
    have again : (params.entries.map fun param => (param.1, param.2.toJson)).map
        (fun member => (member.1, AttributeValue.ofJson member.2)) = params.entries := by
      rw [List.map_map]
      refine (List.map_congr_left fun param listed => ?_).trans (List.map_id _)
      exact Prod.ext rfl (kept param listed).2
    rw [ValidatorRef.toJson, ValidatorRef.ofJson?, List.filter_cons_of_neg (by simp), others, again]
    simp [Json.Members.required, Json.text?, params.ofList_entries]

variable {before after : Json.Members} {name : String}

@[simp] theorem Hints.get?_members_eq_none {hints : Hints} (noPlaceholder : name ≠ "placeholder")
    (noExamples : name ≠ "examples") : hints.members.get? name = none := by
  simp [members, noPlaceholder, noExamples]

theorem Hints.ofMembers?_members {hints : Hints} (found : ofMembers? before = some hints)
    (placeholder : after.get? "placeholder" = hints.members.get? "placeholder")
    (examples : after.get? "examples" = hints.members.get? "examples") :
    ofMembers? after = some hints := by
  simp only [ofMembers?, bind_eq_some, pure_eq_some] at found
  obtain ⟨text, readText, samples, readSamples, rfl⟩ := found
  rw [ofMembers?, faithful_text.optional (by simp) readText,
    faithful_text.list.omitted List.isEmpty_iff readSamples]
  · rfl
  · rw [examples]
    simp [members]
  · rw [placeholder]
    simp [members]

/-- The names of the parts that the limits of a list are written with. -/
def ListLimits.partNames : List String :=
  ["minItems", "maxItems", "itemMinLength", "itemMaxLength", "uniqueItems", "placeholder",
    "examples"]

theorem ListLimits.ofMembers?_members {limits : ListLimits}
    (found : ofMembers? before = some limits)
    (same : ∀ name ∈ partNames, after.get? name = limits.members.get? name) :
    ofMembers? after = some limits := by
  simp only [ofMembers?, bind_eq_some, pure_eq_some] at found
  obtain ⟨minItems, readMin, maxItems, readMax, low, readLow, high, readHigh, unique, readUnique,
    hints, readHints, rfl⟩ := found
  rw [ofMembers?, faithful_count.optional (by simp) readMin,
    faithful_count.optional (by simp) readMax, faithful_count.optional (by simp) readLow,
    faithful_count.optional (by simp) readHigh, faithful_bool.defaulted rfl readUnique,
    Hints.ofMembers?_members readHints]
  · rfl
  all_goals
    rw [same _ (by decide)]
    simp [members]

/-- The names of the parts that the limits of a table are written with. -/
def TableLimits.partNames : List String := ["columns", "minRows", "maxRows"]

theorem TableLimits.ofMembers?_members {limits : TableLimits} {depth : Json.Depth}
    (found : ofMembers? depth before = some limits)
    (same : ∀ name ∈ partNames, after.get? name = limits.members.get? name) :
    ofMembers? depth after = some limits := by
  simp only [ofMembers?, bind_eq_some, pure_eq_some] at found
  obtain ⟨columns, readColumns, minRows, readMin, maxRows, readMax, rfl⟩ := found
  rw [ofMembers?, (faithful_columnAt depth).list.required readColumns,
    faithful_count.optional (by simp) readMin, faithful_count.optional (by simp) readMax]
  · rfl
  all_goals
    rw [same _ (by decide)]
    simp [members]

namespace Constraints

/-- The names of the parts of a declaration that are the same for every kind. -/
def outerNames : List String :=
  ["id", "label", "required", "priority", "role", "validators", "line"]

theorem apart_of_mem_list :
    ∀ name ∈ ListLimits.partNames, name ∉ outerNames ∧ name ≠ "kind" := by decide

theorem apart_of_mem_table :
    ∀ name ∈ TableLimits.partNames, name ∉ outerNames ∧ name ≠ "kind" := by decide

theorem faithful_options {options : List FieldOption} (found : optionsOf? before = some options)
    (written : after.get? "options" = some (optionsMember options).2) :
    optionsOf? after = some options :=
  faithful_option.list.required found written

/-- The limits of a kind are read again wherever their parts stand, as long as those beside them
are not called like any of them. -/
theorem ofKind?_members {kind : FieldKind} {constraints : Constraints}
    (found : ofKind? before kind = some constraints) : constraints.kind = kind ∧
      ∀ after : Json.Members,
        (∀ name ∉ outerNames, after.get? name = constraints.members.get? name) →
          ofKind? after kind = some constraints := by
  cases kind with
  | string =>
    simp only [ofKind?, bind_eq_some, pure_eq_some] at found
    obtain ⟨minLength, readMin, maxLength, readMax, pattern, readPattern, hints, readHints, rfl⟩ :=
      found
    refine ⟨rfl, fun after same => ?_⟩
    simp only [ofKind?]
    rw [faithful_count.optional (by simp) readMin, faithful_count.optional (by simp) readMax,
      faithful_text.optional (by simp) readPattern, Hints.ofMembers?_members readHints]
    · rfl
    all_goals
      rw [same _ (by decide)]
      simp [members, limitMembers]
  | number =>
    simp only [ofKind?, bind_eq_some, pure_eq_some] at found
    obtain ⟨min, readMin, max, readMax, integer, readInteger, hints, readHints, rfl⟩ := found
    refine ⟨rfl, fun after same => ?_⟩
    simp only [ofKind?]
    rw [faithful_float.optional (by simp) readMin, faithful_float.optional (by simp) readMax,
      faithful_bool.defaulted rfl readInteger, Hints.ofMembers?_members readHints]
    · rfl
    all_goals
      rw [same _ (by decide)]
      simp [members, limitMembers]
  | stringList | urlList =>
    obtain ⟨limits, readLimits, same⟩ := Option.bind_eq_some_iff.mp found
    cases same
    refine ⟨rfl, fun after same => ?_⟩
    simp only [ofKind?]
    rw [ListLimits.ofMembers?_members readLimits]
    · rfl
    · intro name member
      obtain ⟨apart, notKind⟩ := apart_of_mem_list name member
      rw [same name apart]
      simp [members, limitMembers, notKind]
  | singleSelect =>
    obtain ⟨options, readOptions, same⟩ := Option.bind_eq_some_iff.mp found
    cases same
    refine ⟨rfl, fun after same => ?_⟩
    simp only [ofKind?]
    rw [faithful_options readOptions]
    · rfl
    · rw [same _ (by decide)]
      simp [members, limitMembers, optionsMember]
  | multiSelect =>
    simp only [ofKind?, bind_eq_some, pure_eq_some] at found
    obtain ⟨options, readOptions, min, readMin, max, readMax, rfl⟩ := found
    refine ⟨rfl, fun after same => ?_⟩
    simp only [ofKind?]
    rw [faithful_options readOptions, faithful_count.optional (by simp) readMin,
      faithful_count.optional (by simp) readMax]
    · rfl
    all_goals
      rw [same _ (by decide)]
      simp [members, limitMembers, optionsMember]
  | checkboxes =>
    simp only [ofKind?, bind_eq_some, pure_eq_some] at found
    obtain ⟨options, readOptions, mode, readMode, approval, readApproval, minDone, readMin, rfl⟩ :=
      found
    refine ⟨rfl, fun after same => ?_⟩
    simp only [ofKind?]
    rw [faithful_options readOptions, (faithful_case .inner).required readMode,
      (faithful_case .inner).required readApproval, faithful_count.optional (by simp) readMin]
    · rfl
    all_goals
      rw [same _ (by decide)]
      simp [members, limitMembers, optionsMember]
  | url =>
    obtain ⟨hints, readHints, same⟩ := Option.bind_eq_some_iff.mp found
    cases same
    refine ⟨rfl, fun after same => ?_⟩
    simp only [ofKind?]
    rw [Hints.ofMembers?_members readHints]
    · rfl
    all_goals
      rw [same _ (by decide)]
      simp [members, limitMembers]
  | date =>
    simp only [ofKind?, bind_eq_some, pure_eq_some] at found
    obtain ⟨min, readMin, max, readMax, hints, readHints, rfl⟩ := found
    refine ⟨rfl, fun after same => ?_⟩
    simp only [ofKind?]
    rw [faithful_text.optional (by simp) readMin, faithful_text.optional (by simp) readMax,
      Hints.ofMembers?_members readHints]
    · rfl
    all_goals
      rw [same _ (by decide)]
      simp [members, limitMembers]
  | year =>
    simp only [ofKind?, bind_eq_some, pure_eq_some] at found
    obtain ⟨min, readMin, max, readMax, hints, readHints, rfl⟩ := found
    refine ⟨rfl, fun after same => ?_⟩
    simp only [ofKind?]
    rw [faithful_year.optional (by simp) readMin, faithful_year.optional (by simp) readMax,
      Hints.ofMembers?_members readHints]
    · rfl
    all_goals
      rw [same _ (by decide)]
      simp [members, limitMembers]
  | table =>
    obtain ⟨limits, readLimits, same⟩ := Option.bind_eq_some_iff.mp found
    cases same
    refine ⟨rfl, fun after same => ?_⟩
    simp only [ofKind?]
    rw [TableLimits.ofMembers?_members readLimits]
    · rfl
    · intro name member
      obtain ⟨apart, notKind⟩ := apart_of_mem_table name member
      rw [same name apart]
      simp [members, limitMembers, notKind]

theorem ofMembers?_members {constraints : Constraints}
    (found : ofMembers? before = some constraints)
    (same : ∀ name ∉ outerNames, after.get? name = constraints.members.get? name) :
    ofMembers? after = some constraints := by
  obtain ⟨kind, readKind, found⟩ := Option.bind_eq_some_iff.mp found
  obtain ⟨rfl, kept⟩ := ofKind?_members found
  rw [ofMembers?, (faithful_tag .inner).required readKind]
  · exact kept after same
  · rw [same _ (by decide)]
    simp [members]

/-- The limits of no kind are called like an outer part. -/
theorem get?_members_eq_none {constraints : Constraints} (outer : name ∈ outerNames) :
    constraints.members.get? name = none := by
  simp only [outerNames, List.mem_cons, List.not_mem_nil, or_false] at outer
  rcases outer with rfl | rfl | rfl | rfl | rfl | rfl | rfl
  all_goals
    cases constraints
    all_goals simp [members, limitMembers, optionsMember, ListLimits.members, TableLimits.members]

end Constraints

theorem faithful_definition : Faithful FieldDefinition.ofJson? FieldDefinition.toJson := by
  intro json field found
  simp only [FieldDefinition.ofJson?, bind_eq_some, pure_eq_some] at found
  obtain ⟨members, _, id, readId, label, readLabel, required, readRequired, priority, readPriority,
    role, readRole, validators, readValidators, constraints, readConstraints, line, readLine,
    rfl⟩ := found
  have noValidators : constraints.members.get? "validators" = none :=
    Constraints.get?_members_eq_none (by decide)
  have noLine : constraints.members.get? "line" = none :=
    Constraints.get?_members_eq_none (by decide)
  rw [FieldDefinition.toJson, FieldDefinition.ofJson?, Json.members?]
  simp only [Option.bind_eq_bind, Option.bind_some]
  rw [faithful_text.required readId, faithful_text.required readLabel,
    faithful_bool.required readRequired, faithful_word.required readPriority,
    faithful_text.required readRole,
    faithful_validator.list.omitted List.isEmpty_iff readValidators,
    Constraints.ofMembers?_members readConstraints, faithful_count.optional (by simp) readLine]
  · rfl
  · simp [noLine]
  · intro name outer
    simp only [Constraints.outerNames, List.mem_cons, List.not_mem_nil, or_false, not_or] at outer
    simp [outer]
  · simp [noValidators]
  all_goals simp

theorem faithful_group : Faithful FieldGroup.ofJson? FieldGroup.toJson := by
  intro json group found
  simp only [FieldGroup.ofJson?, bind_eq_some, pure_eq_some] at found
  obtain ⟨members, _, id, readId, title, readTitle, fields, readFields, rfl⟩ := found
  rw [FieldGroup.toJson, FieldGroup.ofJson?, record?_obj]
  · simp only [Option.bind_eq_bind, Option.bind_some]
    rw [faithful_text.optional (by simp) readId, faithful_text.optional (by simp) readTitle,
      faithful_definition.list.required readFields]
    · rfl
    all_goals simp
  · exact (follow_ifSome.append follow_ifSome).append follow_one
  · decide

theorem faithful_schema : Faithful FormSchema.ofJson? FormSchema.toJson := by
  intro json schema found
  simp only [FormSchema.ofJson?, bind_eq_some, pure_eq_some] at found
  obtain ⟨members, _, id, readId, title, readTitle, groups, readGroups, rfl⟩ := found
  rw [FormSchema.toJson, FormSchema.ofJson?, record?_obj]
  · simp only [Option.bind_eq_bind, Option.bind_some]
    rw [faithful_text.required readId, faithful_text.optional (by simp) readTitle,
      faithful_group.list.required readGroups]
    · rfl
    all_goals simp
  · exact (follow_one.append follow_ifSome).append follow_one
  · decide

theorem faithful_warning : Faithful Warning.ofJson? Warning.toJson := by
  intro json warning found
  simp only [Warning.ofJson?, bind_eq_some, pure_eq_some] at found
  obtain ⟨members, _, fieldId, readId, message, readMessage, line, readLine, rfl⟩ := found
  rw [Warning.toJson, Warning.ofJson?, record?_obj]
  · simp only [Option.bind_eq_bind, Option.bind_some]
    rw [faithful_text.required readId, faithful_text.required readMessage,
      faithful_count.optional (by simp) readLine]
    · rfl
    all_goals simp
  · exact (follow_one.append follow_one).append follow_ifSome
  · decide

theorem faithful_responses : Faithful Responses.ofJson? Responses.toJson :=
  faithful_fieldResponse.dict

theorem faithful_form : Faithful ParsedForm.ofJson? ParsedForm.toJson := by
  intro json form found
  simp only [ParsedForm.ofJson?, bind_eq_some, pure_eq_some] at found
  obtain ⟨members, _, schema, readSchema, responses, readResponses, warnings, readWarnings, rfl⟩ :=
    found
  rw [ParsedForm.toJson, ParsedForm.ofJson?, record?_obj]
  · simp only [Option.bind_eq_bind, Option.bind_some]
    rw [faithful_schema.required readSchema, faithful_responses.required readResponses,
      faithful_warning.list.omitted List.isEmpty_iff readWarnings]
    · rfl
    all_goals simp
  · exact (follow_one.append follow_one).append follow_ifAny
  · decide

end DocForm
