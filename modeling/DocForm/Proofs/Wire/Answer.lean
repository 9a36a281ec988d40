import DocForm.Proofs.Wire.Reading

/-! Answers read back. Main statement: a response to a field or to a cell is read again from what is
written of it, whichever of its kinds the value inside has. -/

namespace DocForm

open Json.Members

instance : LawfulVocabulary FieldKind := ⟨by intro kind; cases kind <;> rfl⟩

instance : LawfulVocabulary CheckboxState := ⟨by intro state; cases state <;> rfl⟩

instance : LawfulVocabulary SentinelKind := ⟨by intro kind; cases kind <;> rfl⟩

instance : LawfulVocabulary ResponseState := ⟨by intro state; cases state <;> rfl⟩

theorem faithful_sentinel : Faithful Sentinel.ofJson? Sentinel.toJson := by
  intro json sentinel found
  simp only [Sentinel.ofJson?, bind_eq_some, pure_eq_some] at found
  obtain ⟨members, _, kind, readKind, reason, readReason, rfl⟩ := found
  rw [Sentinel.toJson, Sentinel.ofJson?, record?_obj]
  · simp only [Option.bind_eq_bind, Option.bind_some]
    rw [faithful_word.required readKind, faithful_text.optional (by simp) readReason]
    · rfl
    all_goals simp
  · exact follow_one.append follow_ifSome
  · decide

theorem faithful_cellValue : Faithful CellValue.ofJson? CellValue.toJson := by
  intro json value found
  cases json with
  | int written =>
    simp only [CellValue.ofJson?, Option.some.injEq] at found
    split at found
    · rename_i small
      subst found
      simp only [CellValue.toJson, CellValue.ofJson?, if_pos small]
    · subst found
      rfl
  | float written | str written =>
    cases found
    rfl
  | _ => cases found

section Responses

variable {α : Type} {read : Json → Option α} {write : α → Json}

theorem splitTag?_obj {name : String} {tag : Json} {rest : Json.Members} :
    Json.splitTag? name (.obj ((name, tag) :: rest)) =
      some (tag, .obj ((name, tag) :: rest)) := by
  simp [Json.splitTag?]

theorem Faithful.response (faithful : Faithful read write) (depth : Json.Depth) :
    Faithful (Response.ofJson? depth read) (Response.toJson write) := by
  intro json response found
  simp only [Response.ofJson?, bind_eq_some] at found
  obtain ⟨⟨tag, rest⟩, _, state, _, found⟩ := found
  cases state with
  | unanswered =>
    obtain ⟨_, _, rfl⟩ := Option.map_eq_some_iff.mp found
    rfl
  | answered =>
    simp only [bind_eq_some, pure_eq_some] at found
    obtain ⟨members, _, value, readValue, rfl⟩ := found
    rw [Response.toJson, Response.ofJson?, splitTag?_obj]
    simp only [Option.bind_eq_bind, Option.bind_some, Vocabulary.tagOfJson?_toJson, Response.state]
    rw [record?_obj_of_follow ["state", "value"], Option.bind_some, faithful.required readValue]
    · rfl
    · simp
    · exact follow_one.append follow_one
    · decide
  | skipped | aborted =>
    simp only [bind_eq_some, pure_eq_some] at found
    obtain ⟨members, _, reason, readReason, rfl⟩ := found
    rw [Response.toJson, Response.ofJson?, splitTag?_obj]
    simp only [Option.bind_eq_bind, Option.bind_some, Vocabulary.tagOfJson?_toJson, Response.state]
    rw [record?_obj_of_follow ["state", "reason"], Option.bind_some,
      faithful_text.optional (by simp) readReason]
    · rfl
    · simp
    · exact follow_one.append follow_ifSome
    · decide

end Responses

theorem faithful_cellAt (depth : Json.Depth) :
    Faithful (CellResponse.readAt? depth) CellResponse.toJson :=
  faithful_cellValue.response depth

theorem faithful_rowAt (depth : Json.Depth) : Faithful (TableRow.readAt? depth) TableRow.toJson :=
  (faithful_cellAt depth).dict

theorem faithful_year : Faithful FieldValue.yearOfJson? .int := faithful_intIn yearMin yearMax

namespace FieldValue

/-- A value is read again from its content under the name that its kind gives it. -/
theorem ofMembers?_contentToJson {before : Json.Members} {kind : FieldKind} {value : FieldValue}
    (found : ofMembers? before kind = some value) : value.kind = kind ∧
      ∀ after : Json.Members, after.get? (contentName kind) = some value.contentToJson →
        ofMembers? after kind = some value := by
  cases kind with
  | string | url | date | singleSelect =>
    obtain ⟨text, readText, rfl⟩ := Option.map_eq_some_iff.mp found
    refine ⟨rfl, fun after written => ?_⟩
    exact Option.map_eq_some_iff.mpr ⟨text, faithful_text.nullable (by simp) readText written, rfl⟩
  | number =>
    obtain ⟨number, readNumber, rfl⟩ := Option.map_eq_some_iff.mp found
    refine ⟨rfl, fun after written => ?_⟩
    exact Option.map_eq_some_iff.mpr
      ⟨number, faithful_float.nullable (by simp) readNumber written, rfl⟩
  | year =>
    obtain ⟨year, readYear, rfl⟩ := Option.map_eq_some_iff.mp found
    refine ⟨rfl, fun after written => ?_⟩
    exact Option.map_eq_some_iff.mpr ⟨year, faithful_year.nullable (by simp) readYear written, rfl⟩
  | stringList | multiSelect | urlList =>
    obtain ⟨items, readItems, rfl⟩ := Option.map_eq_some_iff.mp found
    refine ⟨rfl, fun after written => ?_⟩
    exact Option.map_eq_some_iff.mpr ⟨items, faithful_text.list.required readItems written, rfl⟩
  | checkboxes =>
    obtain ⟨states, readStates, rfl⟩ := Option.map_eq_some_iff.mp found
    refine ⟨rfl, fun after written => ?_⟩
    exact Option.map_eq_some_iff.mpr
      ⟨states, (faithful_case .inner).dict.required readStates written, rfl⟩
  | table =>
    obtain ⟨rows, readRows, rfl⟩ := Option.map_eq_some_iff.mp found
    refine ⟨rfl, fun after written => ?_⟩
    exact Option.map_eq_some_iff.mpr
      ⟨rows, (faithful_rowAt .inner).list.required readRows written, rfl⟩

theorem kind_ne_contentName (kind : FieldKind) : contentName kind ≠ "kind" := by
  cases kind <;> decide

end FieldValue

theorem faithful_valueAt (depth : Json.Depth) :
    Faithful (FieldValue.readAt? depth) FieldValue.toJson := by
  intro json value found
  simp only [FieldValue.readAt?, bind_eq_some] at found
  obtain ⟨_, _, kind, _, before, _, found⟩ := found
  obtain ⟨rfl, kept⟩ := FieldValue.ofMembers?_contentToJson found
  have apart := FieldValue.kind_ne_contentName value.kind
  rw [FieldValue.toJson, FieldValue.readAt?, splitTag?_obj]
  simp only [Option.bind_eq_bind, Option.bind_some, Vocabulary.tagOfJson?_toJson]
  rw [Json.wholeRecord?, record?_obj_of_follow ["kind", FieldValue.contentName value.kind]]
  · exact kept _ (by simp [apart])
  · exact follow_one.append follow_one
  · simpa using apart.symm
  · rintro items ⟨⟩

theorem faithful_fieldResponse : Faithful FieldResponse.ofJson? FieldResponse.toJson :=
  (faithful_valueAt .inner).response .outer

end DocForm
