import DocForm.Proofs.Calendar.Iso
import DocForm.Proofs.Table.Cell
import DocForm.Proofs.Validation.Code
import DocForm.Proofs.Validation.Check

/-! Answers that are dates. Main statement: a field of dates reports every text that a column of
dates refuses, and both take the same texts, which are ISO dates and the looser ones of as many
bytes. -/

namespace DocForm

/-- The codes of the issues with a text as a date. -/
def dateCodes (field : FieldDefinition) (text : String) : List IssueCode :=
  codesOf (validateField field (.answered (.date (some text))))

variable {field : FieldDefinition} {limits : DateLimits} {value : FieldValue} {code : IssueCode}
  {text : String}

/-- Codes other than that of remarks on sentinels come from the check of the value. -/
theorem mem_codesOf_answered_iff (sameKind : value.kind = field.kind)
    (noRemark : code ≠ .sentinelValue) :
    code ∈ codesOf (validateField field (.answered value)) ↔
      code ∈ codesOf (field.checkValue value) := by
  rw [validateField, FieldDefinition.checkAnswer, if_pos sameKind, codesOf_append, List.mem_append]
  constructor
  · rintro (remarked | checked)
    · obtain ⟨issue, remark, rfl⟩ := mem_codesOf.mp remarked
      exact absurd (FieldDefinition.remark_of_mem remark).1 noRemark
    · exact checked
  · exact .inr

/-- Bounds have codes of their own. -/
theorem invalidDate_mem_checkDate_iff :
    .invalidDate ∈ codesOf (field.checkDate limits text) ↔ (parseDate? text).isSome = false := by
  cases read : parseDate? text with
  | none => simp [FieldDefinition.checkDate, read]
  | some date => simp [FieldDefinition.checkDate, read]

theorem invalidDate_mem_iff (dated : field.constraints = .date limits) :
    .invalidDate ∈ dateCodes field text ↔ (parseDate? text).isSome = false := by
  have sameKind : (FieldValue.date (some text)).kind = field.kind := by
    rw [FieldDefinition.kind, dated]
    rfl
  have checked : field.checkValue (.date (some text)) = field.checkDate limits text := by
    simp only [FieldDefinition.checkValue, dated]
  rw [dateCodes, mem_codesOf_answered_iff sameKind (by decide), checked,
    invalidDate_mem_checkDate_iff]

theorem exists_coerceCell_date_iff :
    (∃ kept, coerceCell (.text text) .date = .ok kept) ↔ (parseDate? text).isSome = true := by
  simp only [coerceCell_date_eq_ok_iff, exists_and_left, exists_eq', and_true, CellValue.describe]

/-- What fields and columns of dates make of a text. -/
structure TakesDates (field : FieldDefinition) (text : String) : Prop where
  reported : .invalidDate ∈ dateCodes field text ↔
    ¬ (IsIsoDate (Text.trim text) ∨ IsLooseDate (Text.trim text))
  kept : (∃ kept, coerceCell (.text text) .date = .ok kept) ↔
    IsIsoDate (Text.trim text) ∨ IsLooseDate (Text.trim text)
  apart : ¬ (IsIsoDate (Text.trim text) ∧ IsLooseDate (Text.trim text))

/-- With any bounds, ISO dates are taken, and so are dates of as many bytes with a sign or with
white space inside. -/
theorem takesDates_of_date (field : FieldDefinition) (limits : DateLimits) (text : String)
    (dated : field.constraints = .date limits) : TakesDates field text where
  reported := by
    rw [invalidDate_mem_iff dated, ← isSome_parseDate?_iff, Bool.not_eq_true]
  kept := exists_coerceCell_date_iff.trans isSome_parseDate?_iff
  apart both := both.1.not_isLooseDate both.2

/-- Any day. -/
def anyDay : DateLimits := ⟨none, none, ⟨none, []⟩⟩

/-- A field for the day of an arrival. -/
def arrival : FieldDefinition where
  id := "arrival"
  label := "Arrival"
  required := false
  priority := .medium
  role := "agent"
  validators := []
  constraints := .date anyDay
  line := none

/-- The 29th of February is taken in a leap year, and is no date in a common one. -/
theorem takesDates_arrival :
    .invalidDate ∉ dateCodes arrival " 2024-02-29 " ∧ ¬ IsIsoDate "2023-02-29" := by
  have real : Date.isReal ⟨numberOf "2024", numberOf "02", numberOf "29"⟩ = true := by decide
  have iso : IsIsoDate "2024-02-29" :=
    ⟨"2024", "02", "29", by decide, by decide, by decide, rfl, Date.isReal_iff_exists_day.mp real⟩
  have trimmed : Text.trim " 2024-02-29 " = "2024-02-29" := by decide +kernel
  have bare : Text.trim "2023-02-29" = "2023-02-29" := by decide +kernel
  have leap := takesDates_of_date arrival anyDay " 2024-02-29 " rfl
  have common := takesDates_of_date arrival anyDay "2023-02-29" rfl
  constructor
  · intro reported
    refine leap.reported.mp reported (.inl ?_)
    rwa [trimmed]
  · intro iso
    have reported : .invalidDate ∈ dateCodes arrival "2023-02-29" := by decide +kernel
    refine common.reported.mp reported (.inl ?_)
    rwa [bare]

/-- A sign stands in for a digit, so that the ten bytes are no ISO date and pass for one. -/
theorem signed_arrival :
    ¬ IsIsoDate (Text.trim "+2024-1-05") ∧ .invalidDate ∉ dateCodes arrival "+2024-1-05" ∧
      coerceCell (.text "+2024-1-05") .date = .ok (.text "+2024-1-05") := by
  refine ⟨?_, by decide +kernel, by decide +kernel⟩
  intro iso
  obtain ⟨first, more, shape, decimal⟩ := iso.exists_cons
  have trimmed : Text.trim "+2024-1-05" = "+2024-1-05" := by decide +kernel
  rw [trimmed] at shape
  cases (List.cons.inj shape).1
  cases decimal

end DocForm
