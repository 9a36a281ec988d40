import DocForm.Proofs.Reference.Reading
import DocForm.Proofs.Reference.Resolution
import DocForm.Proofs.Validation.Form
import Mathlib.Data.List.Nodup

/-! Addresses of issues. Main statement: every issue of a parsed form points into that form, and
its written reference reads back. -/

namespace DocForm

variable {settings : Settings} {root : Node} {form : ParsedForm} {field : FieldDefinition}

namespace FormSchema

variable {schema : FormSchema}

theorem eq_of_id_eq (distinct : (schema.fields.map (·.id)).Nodup) {other : FieldDefinition}
    (member : field ∈ schema.fields) (otherMember : other ∈ schema.fields)
    (same : other.id = field.id) : other = field :=
  List.inj_on_of_nodup_map distinct otherMember member same

/-- With distinct ids a field is found by its id. -/
theorem field?_eq_some_iff (distinct : (schema.fields.map (·.id)).Nodup) {id : String} :
    schema.field? id = some field ↔ field ∈ schema.fields ∧ field.id = id :=
  find?_key_eq_some_iff distinct

theorem field?_of_mem (distinct : (schema.fields.map (·.id)).Nodup)
    (member : field ∈ schema.fields) : schema.field? field.id = some field :=
  (field?_eq_some_iff distinct).mpr ⟨member, rfl⟩

end FormSchema

/-- The rows that a table holds now; it holds none unless it is answered. -/
def liveRows (responses : Responses) (fieldId : String) : List TableRow :=
  match (responseTo responses fieldId).value? with
  | some (.table rows) => rows
  | _ => []

theorem liveRows_of_answered {responses : Responses} {fieldId : String} {rows : List TableRow}
    (answered : responseTo responses fieldId = .answered (.table rows)) :
    liveRows responses fieldId = rows := by
  rw [liveRows, answered]
  rfl

theorem rowCounts_eq (schema : FormSchema) (responses : Responses) :
    Reference.rowCounts schema responses =
      .ofList (schema.tables.map fun table => (table.id, (liveRows responses table.id).length)) := by
  rw [Reference.rowCounts]
  congr 1
  refine List.map_congr_left fun table _ => ?_
  rw [liveRows]
  split <;> simp [*]

/-- The rows that are counted for a table are those of its answer. -/
theorem get?_rowCounts {schema : FormSchema} (responses : Responses)
    (distinct : (schema.fields.map (·.id)).Nodup) (member : field ∈ schema.fields)
    (table : field.kind = .table) :
    (Reference.rowCounts schema responses).get? field.id =
      some (liveRows responses field.id).length := by
  have distinctTables : (schema.tables.map (·.id)).Nodup :=
    distinct.sublist (List.filter_sublist.map _)
  rw [rowCounts_eq, Dict.get?_ofList (by simpa [Function.comp_def] using distinctTables)]
  exact List.mem_map.mpr ⟨field, List.mem_filter.mpr ⟨member, by simpa using table⟩, rfl⟩

section Parsed

variable (read : parseForm settings root = .ok form) (member : field ∈ form.schema.fields)
  {reference : Reference}

include read member

/-- What an issue is about is found in the form. -/
theorem resolve_of_about (about : About field (responseTo form.responses field.id) reference) :
    reference.resolve form.schema (some (Reference.rowCounts form.schema form.responses)) =
      .ok reference := by
  have distinct := distinct_fields_of_parseForm read
  have found := FormSchema.field?_of_mem distinct member
  apply Reference.resolve_eq_ok_iff.mpr
  cases about with
  | field => exact ⟨rfl, ⟨field, found⟩, trivial⟩
  | cell declared answered present below =>
    have column := (FieldDefinition.hasColumn_iff declared).mpr (List.mem_map_of_mem present)
    refine ⟨rfl, ⟨field, found, column⟩, ?_⟩
    rintro counts ⟨⟩
    rwa [get?_rowCounts form.responses distinct member column.1, liveRows_of_answered answered]

/-- What an issue is about has identifiers for names, and it is no column. -/
theorem isNamed_of_about (about : About field (responseTo form.responses field.id) reference) :
    reference.IsNamed ∧ reference.untyped = reference := by
  have identifier := isIdentifier_of_mem_fields read member
  cases about with
  | field => exact ⟨identifier, rfl⟩
  | @cell limits rows column row declared answered present below =>
    have allowed := (allow_of_mem_fields read member answered).1
    rw [declared] at allowed
    exact ⟨⟨identifier, allowed.1.1 column.id (List.mem_map_of_mem present)⟩, rfl⟩

end Parsed

/-- An issue that points into a form. -/
structure Addresses (form : ParsedForm) (issue : Issue) : Prop where
  resolves : issue.reference.resolve form.schema
    (some (Reference.rowCounts form.schema form.responses)) = .ok issue.reference
  /-- The text of the reference reads back. -/
  parses : issue.reference.HasWordRow →
    Reference.parse issue.reference.render = .ok issue.reference
  possible : issue.code ∉ ([.kindMismatch, .unknownOption, .invalidCheckboxState, .cellMissing,
    .cellEmpty] : List IssueCode)

theorem not_mem_of_isMalformed {code : IssueCode} (known : code.isMalformed = false) :
    code ∉ ([.kindMismatch, .unknownOption, .invalidCheckboxState, .cellMissing,
      .cellEmpty] : List IssueCode) := by
  cases code <;> revert known <;> decide

/-- Every issue of a parsed form points into the form, and it is one that parsing leaves open. -/
theorem addresses_of_mem_validateForm (read : parseForm settings root = .ok form) :
    ∀ issue ∈ validateForm form.schema form.responses, Addresses form issue := by
  intro issue listed
  obtain ⟨field, member, found⟩ := mem_validateForm.mp listed
  obtain ⟨about, known⟩ := about_of_mem_fields read member found
  obtain ⟨named, typed⟩ := isNamed_of_about read member about
  exact {
    resolves := resolve_of_about read member about
    parses := fun word => by rw [Reference.parse, Reference.read_render named word, typed]
    possible := not_mem_of_isMalformed known }

theorem addresses_survey : ∃ form, parseForm .standard survey = .ok form ∧
    ∃ issue ∈ validateForm form.schema form.responses,
      issue.reference = .cell "guests" "born" 1 ∧
        Reference.parse issue.reference.render = .ok issue.reference := by
  obtain ⟨form, read⟩ := exists_parseForm_survey
  have computed : (parseForm .standard survey).toOption.map (fun form =>
      (validateForm form.schema form.responses).map (·.reference)) =
        some [.cell "guests" "born" 1] := by
    decide +kernel
  rw [read] at computed
  have references : (validateForm form.schema form.responses).map (·.reference) =
      [.cell "guests" "born" 1] := Option.some.inj computed
  obtain ⟨issue, listed, refers⟩ : ∃ issue ∈ validateForm form.schema form.responses,
      issue.reference = .cell "guests" "born" 1 := by
    rw [← List.mem_map, references]
    exact List.mem_singleton_self _
  refine ⟨form, read, issue, listed, refers, ?_⟩
  apply (addresses_of_mem_validateForm read issue listed).parses
  rw [refers]
  exact (by decide : 1 < Reference.rowLimit)

end DocForm
