import DocForm.Proofs.Field.Consistent
import DocForm.Proofs.Field.Parts
import DocForm.Proofs.Validation.Table

/-! Numbers of rows that pass the check of a table. Main statement: the bounds of a table that can
be read leave such a number, unless the table is required, declares no least number of rows, and
may have none. -/

namespace DocForm

/-- No table of so many rows is reported to have too few of them or too many. -/
def TableLimits.Admits (limits : TableLimits) (fieldId : String) (required : Bool)
    (count : Nat) : Prop :=
  ∀ rows : List TableRow, rows.length = count →
    ∀ issue ∈ validateTable fieldId required limits rows,
      issue.code ≠ .minRowsNotMet ∧ issue.code ≠ .maxRowsExceeded

namespace TableLimits

variable {limits : TableLimits} {fieldId : String} {required : Bool} {count : Nat}

theorem mem_countFaults {code : IssueCode} (member : code ∈ countFaults required limits count) :
    code = .minRowsNotMet ∨ code = .maxRowsExceeded := by
  rcases List.mem_append.mp member with few | many
  · exact .inl (List.mem_singleton.mp (List.mem_ite_nil_right.mp few).2)
  · exact .inr (List.mem_singleton.mp (List.mem_ite_nil_right.mp many).2)

/-- The issues with cells say nothing about the number of rows. -/
theorem admits_of_countFaults (noFault : countFaults required limits count = []) :
    limits.Admits fieldId required count := by
  rintro rows rfl issue listed
  rw [validateTable_eq] at listed
  rcases List.mem_append.mp listed with counted | faulty
  · have codes := codesOf_checkRowCount fieldId required limits rows.length
    rw [noFault, codesOf, List.map_eq_nil_iff] at codes
    rw [codes] at counted
    cases counted
  · obtain ⟨⟨row, columnId, fault⟩, _, rfl⟩ := List.mem_map.mp faulty
    cases fault <;> simp [FaultyCell.issue, CellFault.code]

theorem countFaults_of_admits (admits : limits.Admits fieldId required count) :
    countFaults required limits count = [] := by
  rw [List.eq_nil_iff_forall_not_mem]
  intro code member
  -- Which rows these are makes no difference, so empty ones will do.
  let rows : List TableRow := List.replicate count .empty
  have sameCount : rows.length = count := List.length_replicate
  have told := member
  rw [← sameCount, ← codesOf_checkRowCount fieldId] at told
  obtain ⟨issue, counted, named⟩ := mem_codesOf.mp told
  have listed : issue ∈ validateTable fieldId required limits rows :=
    List.mem_append_left _ counted
  obtain ⟨notFew, notMany⟩ := admits rows sameCount issue listed
  rw [named] at notFew notMany
  exact (mem_countFaults member).elim notFew notMany

theorem admits_iff : limits.Admits fieldId required count ↔
    limits.rowsNeeded required ≤ count ∧ ∀ most ∈ limits.maxRows, count ≤ most := by
  rw [← countFaults_eq_nil_iff]
  exact ⟨countFaults_of_admits, admits_of_countFaults⟩

/-- Some number of rows passes exactly when the table does not need more than it may have. -/
theorem exists_admits_iff : (∃ count, limits.Admits fieldId required count) ↔
    ∀ most ∈ limits.maxRows, limits.rowsNeeded required ≤ most := by
  constructor
  · rintro ⟨count, admits⟩ most bound
    obtain ⟨enough, few⟩ := admits_iff.mp admits
    exact enough.trans (few most bound)
  · intro inOrder
    exact ⟨limits.rowsNeeded required, admits_iff.mpr ⟨Nat.le_refl _, inOrder⟩⟩

/-- Where the declared bounds are in order, only the row that a required table needs by itself can
be more than the table may have. -/
theorem rowsNeeded_le_iff (inOrder : InOrder limits.minRows limits.maxRows) :
    (∀ most ∈ limits.maxRows, limits.rowsNeeded required ≤ most) ↔
      ¬ (required = true ∧ limits.minRows = none ∧ limits.maxRows = some 0) := by
  cases upper : limits.maxRows with
  | none => simp
  | some most =>
    cases lower : limits.minRows with
    | none =>
      cases required <;> simp [rowsNeeded, lower, Nat.one_le_iff_ne_zero]
    | some least =>
      have below : least ≤ most := Nat.not_lt.mp (inOrder least lower most upper)
      simpa [rowsNeeded, lower] using below

end TableLimits

variable {settings : Settings} {node : Node} {parsed : ParsedField}

/-- A field that is read from the tag of a table has limits of a table, with bounds in order. -/
theorem exists_limits_of_parseField (known : node.fieldKind? = some .table)
    (read : parseField settings node = .ok (some parsed)) :
    ∃ limits, parsed.definition.constraints = .table limits ∧
      InOrder limits.minRows limits.maxRows := by
  have table := kind_of_readField (readField_of_parseField known read)
  obtain ⟨limits, declared⟩ := FieldDefinition.exists_of_kind_table table
  have ordered := (consistent_of_parseField read).constraints.bounds
  rw [declared] at ordered
  exact ⟨limits, declared, ordered⟩

/-- The bounds of a table that can be read leave some number of rows, unless the table is required,
declares no least number of rows, and may have none. -/
theorem exists_admits_of_parseField (known : node.fieldKind? = some .table)
    (read : parseField settings node = .ok (some parsed)) :
    ∃ limits, parsed.definition.constraints = .table limits ∧
      ((∃ count, limits.Admits parsed.definition.id parsed.definition.required count) ↔
        ¬ (parsed.definition.required = true ∧ limits.minRows = none ∧ limits.maxRows = some 0)) := by
  obtain ⟨limits, declared, inOrder⟩ := exists_limits_of_parseField known read
  refine ⟨limits, declared, ?_⟩
  rw [TableLimits.exists_admits_iff, TableLimits.rowsNeeded_le_iff inOrder]

/-- A required list of guests, of whom there may be so many. -/
def guestRoom (beds : Float) : Node where
  type := "tag"
  tag := some "table-field"
  attributes := .ofList [("id", .text "guests"), ("label", .text "Guests"),
    ("required", .bool true), ("columnIds", .list [.text "name"]), ("maxRows", .number beds)]
  children := []
  lines := [1]

/-- A room without beds is required to have a guest and may have none. -/
theorem never_admits_guestRoom :
    ∃ parsed limits, parseField .standard (guestRoom 0) = .ok (some parsed) ∧
      parsed.definition.constraints = .table limits ∧
        ∀ count, ¬ limits.Admits parsed.definition.id parsed.definition.required count := by
  have crowded : ((parseField .standard (guestRoom 0)).toOption.join.any fun parsed =>
      parsed.definition.required && parsed.definition.constraints.table?.any fun limits =>
        limits.minRows = none && limits.maxRows = some 0) = true := by
    decide +kernel
  obtain ⟨parsed, read, tested⟩ := exists_ok_of_any crowded
  simp only [Bool.and_eq_true, Option.any_eq_true, decide_eq_true_eq] at tested
  obtain ⟨needed, limits, table, noLeast, noneAllowed⟩ := tested
  have declared : parsed.definition.constraints = .table limits := by
    cases same : parsed.definition.constraints <;> simp_all [Constraints.table?]
  refine ⟨parsed, limits, read, declared, fun count admits => ?_⟩
  have inOrder := TableLimits.exists_admits_iff.mp ⟨count, admits⟩ 0 noneAllowed
  simp [TableLimits.rowsNeeded, needed, noLeast] at inOrder

/-- A room with one bed takes some number of guests. -/
theorem exists_admits_guestRoom :
    ∃ parsed limits, parseField .standard (guestRoom 1) = .ok (some parsed) ∧
      parsed.definition.constraints = .table limits ∧
        ∃ count, limits.Admits parsed.definition.id parsed.definition.required count := by
  have roomy : ((parseField .standard (guestRoom 1)).toOption.join.any fun parsed =>
      parsed.definition.constraints.table?.any fun limits => limits.maxRows = some 1) = true := by
    decide +kernel
  obtain ⟨parsed, read, tested⟩ := exists_ok_of_any roomy
  obtain ⟨limits, declared, satisfiable⟩ := exists_admits_of_parseField (by decide) read
  simp only [declared, Constraints.table?, Option.any_some, decide_eq_true_eq] at tested
  refine ⟨parsed, limits, read, declared, satisfiable.mpr ?_⟩
  rintro ⟨_, _, noneAllowed⟩
  rw [tested] at noneAllowed
  cases noneAllowed

end DocForm
