import DocForm.Proofs.Validation.Address

/-! Required fields that nobody answered. Main statement: each of them has an error that names it,
but for a table that may have no rows, since a declared number of rows takes the place of the one
row that a required table needs otherwise. -/

namespace DocForm

namespace FieldDefinition

/-- The least number of rows that a table declares. -/
def minRows? (field : FieldDefinition) : Option Nat := field.constraints.table?.bind (·.minRows)

variable {field : FieldDefinition}

theorem exists_error_of_errorIf {condition : Bool} {code : IssueCode} {message : String}
    (holds : condition = true) : ∃ issue ∈ field.errorIf condition code message,
      issue.isError = true ∧ issue.reference = .field field.id := by
  rw [errorIf, Issue.errorIf, if_pos holds]
  exact ⟨_, List.mem_singleton_self _, rfl, rfl⟩

/-- A table without rows has too few of them, unless it declares that it needs none. -/
theorem exists_error_of_noRows {limits : TableLimits} (needsRow : limits.minRows ≠ some 0) :
    ∃ issue ∈ validateTable field.id true limits [],
      issue.isError = true ∧ issue.reference = .field field.id := by
  obtain ⟨least, positive, bound⟩ : ∃ least, 0 < least ∧ limits.leastRows? true = some least := by
    cases declared : limits.minRows with
    | none => exact ⟨1, Nat.one_pos, by simp [TableLimits.leastRows?, declared]⟩
    | some least =>
      refine ⟨least, Nat.pos_of_ne_zero fun zero => needsRow ?_, ?_⟩
      · rw [declared, zero]
      · simp [TableLimits.leastRows?, declared]
  have short : decide (([] : List TableRow).length < least) = true := by simpa using positive
  rw [validateTable, checkRowCount, bound]
  exact (exists_error_of_errorIf short).imp fun issue found =>
    ⟨List.mem_append_left _ (List.mem_append_left _ found.1), found.2⟩

theorem validateTable_eq_nil {limits : TableLimits} (noneNeeded : limits.minRows = some 0) :
    validateTable field.id true limits [] = [] := by
  have least : limits.leastRows? true = some 0 := by simp [TableLimits.leastRows?, noneNeeded]
  rw [validateTable, checkRowCount, least]
  cases most : limits.maxRows with
  | none => simp [Issue.errorIf, checkRows]
  | some most => simp [Issue.errorIf, checkRows]

theorem exists_error_of_checkUnanswered (needed : field.required = true)
    (needsRow : field.minRows? ≠ some 0) :
    ∃ issue ∈ field.checkUnanswered,
      issue.isError = true ∧ issue.reference = .field field.id := by
  unfold checkUnanswered
  split
  · rename_i limits declared
    rw [if_pos needed]
    apply exists_error_of_noRows
    simpa [minRows?, declared, Constraints.table?] using needsRow
  · exact exists_error_of_errorIf needed

theorem checkUnanswered_eq_nil (noneNeeded : field.minRows? = some 0) :
    field.checkUnanswered = [] := by
  obtain ⟨limits, table, rows⟩ := Option.bind_eq_some_iff.mp noneNeeded
  have declared : field.constraints = .table limits := by
    cases same : field.constraints <;> simp_all [Constraints.table?]
  simp only [checkUnanswered, declared, validateTable_eq_nil rows, ite_self]

end FieldDefinition

variable {settings : Settings} {root : Node} {form : ParsedForm} {field : FieldDefinition}

/-- A required field that nobody answered is reported exactly when it is no table that declares to
need no rows. -/
theorem reported_iff_of_unanswered (read : parseForm settings root = .ok form)
    (member : field ∈ form.schema.fields) (needed : field.required = true)
    (unanswered : responseTo form.responses field.id = .unanswered) :
    (∃ issue ∈ validateForm form.schema form.responses,
      issue.isError = true ∧ issue.reference.fieldId = field.id) ↔ field.minRows? ≠ some 0 := by
  constructor
  · rintro ⟨issue, listed, _, names⟩ noneNeeded
    obtain ⟨other, otherMember, found⟩ := mem_validateForm.mp listed
    obtain ⟨about, _⟩ := about_of_mem_fields read otherMember found
    have distinct := distinct_fields_of_parseForm read
    have same : other = field :=
      FormSchema.eq_of_id_eq distinct member otherMember (about.fieldId_eq.symm.trans names)
    subst same
    rw [unanswered, validateField, FieldDefinition.checkUnanswered_eq_nil noneNeeded] at found
    cases found
  · intro needsRow
    obtain ⟨issue, found, isError, names⟩ :=
      FieldDefinition.exists_error_of_checkUnanswered needed needsRow
    refine ⟨issue, mem_validateForm.mpr ⟨field, member, ?_⟩, isError, by rw [names]; rfl⟩
    rw [unanswered]
    exact found

/-- A form that asks for guests, of whom there may be none, and for at least one host. -/
def party : Node :=
  let guests := Node.sampleTag "table-field" "guests" 2 [("label", .text "Guests"),
    ("required", .bool true), ("columnIds", .list [.text "name"]), ("minRows", .number 0)] []
  let hosts := Node.sampleTag "table-field" "hosts" 3 [("label", .text "Hosts"),
    ("required", .bool true), ("columnIds", .list [.text "name"])] []
  ⟨"document", none, .empty, [.sampleTag "form" "party" 1 [] [guests, hosts]], []⟩

theorem exists_field_party (test : ParsedForm → FieldDefinition → Bool)
    (found : (parseForm .standard party).toOption.any
      (fun form => form.schema.fields.any (test form)) = true) :
    ∃ form, parseForm .standard party = .ok form ∧
      ∃ field ∈ form.schema.fields, test form field = true := by
  obtain ⟨form, read, tested⟩ := (Option.any_eq_true _ _).mp found
  exact ⟨form, toOption_eq_some.mp read, List.any_eq_true.mp tested⟩

/-- The table of guests is required and nobody filled it in, yet no error names it. -/
theorem exists_unreported_party : ∃ form, parseForm .standard party = .ok form ∧
    ∃ field ∈ form.schema.fields, field.required = true ∧
      responseTo form.responses field.id = .unanswered ∧
        ¬ ∃ issue ∈ validateForm form.schema form.responses,
          issue.isError = true ∧ issue.reference.fieldId = field.id := by
  obtain ⟨form, read, field, member, tested⟩ := exists_field_party
    (fun form field => field.required && responseTo form.responses field.id = .unanswered &&
      (validateForm form.schema form.responses).all fun issue =>
        !(issue.isError && issue.reference.fieldId = field.id)) (by decide +kernel)
  simp only [Bool.and_eq_true, decide_eq_true_eq, List.all_eq_true] at tested
  obtain ⟨⟨needed, unanswered⟩, unreported⟩ := tested
  refine ⟨form, read, field, member, needed, unanswered, ?_⟩
  rintro ⟨issue, listed, isError, names⟩
  simpa [isError, names] using unreported issue listed

/-- The table of hosts is reported. -/
theorem reported_party : ∃ form, parseForm .standard party = .ok form ∧
    ∃ field ∈ form.schema.fields, field.required = true ∧
      responseTo form.responses field.id = .unanswered ∧
        ∃ issue ∈ validateForm form.schema form.responses,
          issue.isError = true ∧ issue.reference.fieldId = field.id := by
  obtain ⟨form, read, field, member, tested⟩ := exists_field_party
    (fun form field => field.required && responseTo form.responses field.id = .unanswered &&
      field.minRows? ≠ some 0) (by decide +kernel)
  simp only [Bool.and_eq_true, decide_eq_true_eq] at tested
  obtain ⟨⟨needed, unanswered⟩, needsRow⟩ := tested
  exact ⟨form, read, field, member, needed, unanswered,
    (reported_iff_of_unanswered read member needed unanswered).mpr needsRow⟩

end DocForm
