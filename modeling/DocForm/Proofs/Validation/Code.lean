import DocForm.Validation.Field

/-! The codes of issues. Main statements: which code each kind of check reports, that a check with a
bound reports its code once when the bound is broken, and that the count of rows is only checked
against limits of the field. -/

namespace DocForm

/-- The codes of issues, in the order of the issues. -/
def codesOf (issues : List Issue) : List IssueCode := issues.map (·.code)

/-- Codes of values that go beyond a limit of their field. -/
def IssueCode.isLimit : IssueCode → Bool
  | .requiredMissing | .kindMismatch | .unknownOption | .invalidCheckboxState | .sentinelValue
  | .cellMissing | .cellEmpty | .cellTypeMismatch => false
  | _ => true

/-- An error about a limit of the field as a whole. -/
structure Issue.IsLimit (fieldId : String) (issue : Issue) : Prop where
  code : issue.code.isLimit = true
  severity : issue.severity = .error
  reference : issue.reference = .field fieldId

variable {code : IssueCode} {message : String} {condition : Bool} {reference : Reference}
  {issue : Issue} {fieldId : String}

@[simp] theorem codesOf_nil : codesOf [] = [] := rfl

@[simp] theorem codesOf_append (first second : List Issue) :
    codesOf (first ++ second) = codesOf first ++ codesOf second :=
  List.map_append

theorem codesOf_flatMap {α : Type} (items : List α) (check : α → List Issue) :
    codesOf (items.flatMap check) = items.flatMap fun item => codesOf (check item) :=
  List.map_flatMap

@[simp] theorem codesOf_errorIf :
    codesOf (Issue.errorIf condition code reference message) = if condition then [code] else [] := by
  rw [Issue.errorIf]
  split <;> rfl

theorem mem_codesOf {issues : List Issue} :
    code ∈ codesOf issues ↔ ∃ issue ∈ issues, issue.code = code :=
  List.mem_map

theorem Issue.mem_errorIf_iff :
    issue ∈ errorIf condition code reference message ↔
      condition = true ∧ issue = ⟨code, .error, message, reference⟩ := by
  rw [errorIf, List.mem_ite_nil_right, List.mem_singleton]

theorem Issue.IsLimit.code_ne_requiredMissing (isLimit : issue.IsLimit fieldId) :
    issue.code ≠ .requiredMissing := by
  intro missing
  have limit := isLimit.code
  rw [missing] at limit
  cases limit

theorem isLimit_errorIf (limit : code.isLimit = true) :
    ∀ issue ∈ Issue.errorIf condition code (.field fieldId) message, issue.IsLimit fieldId := by
  intro issue member
  obtain ⟨_, rfl⟩ := Issue.mem_errorIf_iff.mp member
  exact ⟨limit, rfl, rfl⟩

theorem isLimit_checkRowCount {required : Bool} {limits : TableLimits} {count : Nat} :
    ∀ issue ∈ checkRowCount fieldId required limits count, issue.IsLimit fieldId := by
  refine List.forall_mem_append.mpr ⟨?_, ?_⟩
  · split
    · exact List.forall_mem_nil _
    · exact isLimit_errorIf rfl
  · split
    · exact List.forall_mem_nil _
    · exact isLimit_errorIf rfl

namespace FieldDefinition

variable {field : FieldDefinition}

@[simp] theorem codesOf_errorIf :
    codesOf (field.errorIf condition code message) = if condition then [code] else [] :=
  DocForm.codesOf_errorIf

@[simp] theorem codesOf_checkBound {α : Type} {bound : Option α} {broken : α → Bool}
    {message : α → String} : codesOf (field.checkBound code bound broken message) =
      if bound.any broken then [code] else [] := by
  cases bound with
  | none => rfl
  | some bound => exact codesOf_errorIf

end FieldDefinition

end DocForm
