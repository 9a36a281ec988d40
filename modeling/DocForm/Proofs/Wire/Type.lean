import DocForm.Proofs.Reference.Grammar
import DocForm.Proofs.Wire.Declaration
import DocForm.Wire.Type

/-! Everything that is exchanged as JSON reads back. Main statement: a value of any type is read
again, as it was, from what is written of it. -/

namespace DocForm

open Json.Members

instance : LawfulVocabulary Severity := ⟨by intro severity; cases severity <;> rfl⟩

instance : LawfulVocabulary IssueCode := ⟨by intro code; cases code <;> rfl⟩

theorem faithful_reference : Faithful Reference.ofJson? Reference.toJson := by
  intro json reference found
  obtain ⟨text, _, parsed⟩ := Option.bind_eq_some_iff.mp found
  have again := Reference.parse_render (toOption_eq_some.mp parsed)
  exact toOption_eq_some.mpr again

theorem faithful_issue : Faithful Issue.ofJson? Issue.toJson := by
  intro json issue found
  simp only [Issue.ofJson?, bind_eq_some, pure_eq_some] at found
  obtain ⟨members, _, code, readCode, severity, readSeverity, message, readMessage, reference,
    readReference, rfl⟩ := found
  rw [Issue.toJson, Issue.ofJson?, record?_obj]
  · simp only [Option.bind_eq_bind, Option.bind_some]
    rw [faithful_word.required readCode, faithful_word.required readSeverity,
      faithful_text.required readMessage, faithful_reference.required readReference]
    · rfl
    all_goals simp
  · exact ((follow_one.append follow_one).append follow_one).append follow_one
  · decide

namespace WireType

/-- What is read of any type is read again from what is written of it. -/
theorem read?_write {type : WireType} {json : Json} {value : type.Value}
    (found : type.read? json = some value) : type.read? (type.write value) = some value := by
  cases type with
  | node => exact faithful_node json value found
  | attributeValue => exact faithful_attribute json value found
  | definition => exact faithful_definition json value found
  | schema => exact faithful_schema json value found
  | form => exact faithful_form json value found
  | response => exact faithful_fieldResponse json value found
  | cell => exact faithful_cellAt .outer json value found
  | column => exact faithful_columnAt .outer json value found
  | validator => exact faithful_validator json value found
  | issue => exact faithful_issue json value found
  | scope => exact faithful_reference json value found
  | sentinel => exact faithful_sentinel json value found
  | warning => exact faithful_warning json value found

end WireType

/-- A field with an integral bound, which becomes a double, and with validators of both forms. -/
def ageDeclaration : Json :=
  .obj [("id", .str "age"), ("label", .str "Age"), ("required", .bool true),
    ("priority", .str "high"), ("role", .str "user"),
    ("validators", .arr [.str "adult", .obj [("unit", .str "years"), ("id", .str "whole")]]),
    ("kind", .str "number"), ("max", .int 150), ("min", .int 18), ("line", .int 7)]

theorem read?_write_age : ∃ field : FieldDefinition,
    WireType.definition.read? ageDeclaration = some field ∧
      field.constraints = .number ⟨some 18, some 150, false, ⟨none, []⟩⟩ ∧
      WireType.definition.read? (WireType.definition.write field) = some field := by
  have limits : (FieldDefinition.ofJson? ageDeclaration).map (·.constraints) =
      some (.number ⟨some 18, some 150, false, ⟨none, []⟩⟩) := by
    decide +kernel
  obtain ⟨field, found, constraints⟩ := Option.map_eq_some_iff.mp limits
  exact ⟨field, found, constraints, WireType.read?_write found⟩

end DocForm
