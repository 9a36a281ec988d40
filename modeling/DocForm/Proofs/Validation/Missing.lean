import DocForm.Progress
import DocForm.Proofs.Field.Parts
import DocForm.Proofs.Validation.Code
import DocForm.Proofs.Validation.Check

/-! Responses that count as answered and yet hold no answer. Main statement: whether the field is
required or not, such a response is reported exactly when it falls short of a declared number or
mentions an option that nobody declared. -/

namespace DocForm

/-- How many items, chosen options or options done an answer has to have at least. -/
def Constraints.leastParts? : Constraints → Option Nat
  | .stringList limits | .urlList limits => limits.minItems
  | .multiSelect limits => limits.minSelections
  | .checkboxes limits => limits.minDone
  | .string _ | .number _ | .singleSelect _ | .url _ | .date _ | .year _ | .table _ => none

/-- A value of the kind is made of items, options or rows. -/
def FieldKind.hasParts : FieldKind → Bool
  | .stringList | .urlList | .multiSelect | .checkboxes | .table => true
  | .string | .number | .singleSelect | .url | .date | .year => false

/-- What is wrong with a value even though it holds no answer. -/
inductive FieldDefinition.FallsShort (field : FieldDefinition) : FieldValue → Prop where
  | tooFew {value : FieldValue} {least : Nat} (declared : field.constraints.leastParts? = some least)
      (needed : 0 < least) : FallsShort field value
  | undeclared {values : Dict CheckboxState} {id : String} (mentioned : id ∈ values.keys)
      (unknown : field.option? id = none) : FallsShort field (.checkboxes values)

theorem Issue.errorIf_eq_nil_iff {condition : Bool} {code : IssueCode} {reference : Reference}
    {message : String} : errorIf condition code reference message = [] ↔ condition = false := by
  cases condition <;> simp [errorIf]

namespace FieldDefinition

variable {field : FieldDefinition} {value : FieldValue}

/-- A least number is the only thing that finds fault with a value that holds no parts. -/
theorem checkBound_least_eq_nil_iff {code : IssueCode} {least : Option Nat} {message : Nat → String} :
    field.checkBound code least (fun min => decide (0 < min)) message = [] ↔
      ∀ min ∈ least, min = 0 := by
  cases least with
  | none => simp [checkBound]
  | some least => simp [checkBound, errorIf, Issue.errorIf_eq_nil_iff]

theorem not_fallsShort_iff (noCheckboxes : value.kind ≠ .checkboxes) :
    ¬ field.FallsShort value ↔ ∀ least ∈ field.constraints.leastParts?, least = 0 := by
  constructor
  · intro enough least declared
    exact Nat.eq_zero_of_not_pos fun needed => enough (.tooFew declared needed)
  · rintro noneNeeded (⟨declared, needed⟩ | _)
    · exact absurd (noneNeeded _ declared) (Nat.ne_of_gt needed)
    · exact absurd rfl noCheckboxes

/-- A greatest number finds no fault with a value that holds no parts. -/
theorem checkBound_most_eq_nil {code : IssueCode} {most : Option Nat} {message : Nat → String} :
    field.checkBound code most (fun max => decide (max < 0)) message = [] := by
  cases most <;> rfl

theorem checkItems_nil_eq_nil_iff {limits : ListLimits} :
    field.checkItems limits [] = [] ↔ ∀ least ∈ limits.minItems, least = 0 := by
  have noRepeats : (if limits.uniqueItems then field.checkRepeats [] [] else []) = [] := by
    cases limits.uniqueItems <;> rfl
  simp only [checkItems, List.length_nil, List.flatMap_nil, List.append_nil, checkBound_most_eq_nil,
    noRepeats]
  exact checkBound_least_eq_nil_iff

theorem checkSelections_nil_eq_nil_iff {limits : MultiSelectLimits} :
    field.checkSelections limits [] = [] ↔ ∀ least ∈ limits.minSelections, least = 0 := by
  simp only [checkSelections, List.length_nil, List.flatMap_nil, List.nil_append, List.append_nil,
    checkBound_most_eq_nil]
  exact checkBound_least_eq_nil_iff

variable {limits : CheckboxLimits} {values : Dict CheckboxState}

/-- Nothing is done while every option is in its initial state. -/
theorem filter_isDone_eq_nil {mode : CheckboxMode} {states : List CheckboxState}
    (untouched : ∀ state ∈ states, state = .initial mode) :
    states.filter CheckboxState.isDone = [] := by
  rw [List.filter_eq_nil_iff]
  intro state member
  rw [untouched state member]
  cases mode <;> simp [CheckboxState.initial, CheckboxState.isDone]

/-- In its initial state only an option that nobody declared is reported. -/
theorem checkState_initial_eq_nil_iff {mode : CheckboxMode} {id : String} :
    field.checkState mode id (.initial mode) = [] ↔ field.option? id ≠ none := by
  simp [checkState, checkOption, Issue.errorIf_eq_nil_iff, CheckboxState.initial_allowed,
    Option.isSome_iff_ne_none]

theorem checkCheckboxes_eq_nil_iff (declared : field.constraints = .checkboxes limits)
    (untouched : ∀ state ∈ values.values, state = .initial limits.mode) :
    field.checkCheckboxes limits values = [] ↔ ¬ field.FallsShort (.checkboxes values) := by
  have states :
      values.entries.flatMap (fun entry => field.checkState limits.mode entry.1 entry.2) = [] ↔
        ∀ id ∈ values.keys, field.option? id ≠ none := by
    rw [List.flatMap_eq_nil_iff, Dict.keys, List.forall_mem_map]
    refine forall₂_congr fun entry member => ?_
    rw [untouched entry.2 (List.mem_map_of_mem member), checkState_initial_eq_nil_iff]
  simp only [checkCheckboxes, filter_isDone_eq_nil untouched, List.length_nil,
    List.append_eq_nil_iff, states, checkBound_least_eq_nil_iff]
  constructor
  · rintro ⟨known, noneNeeded⟩ (⟨isLeast, needed⟩ | ⟨mentioned, unknown⟩)
    · rw [declared] at isLeast
      exact absurd (noneNeeded _ isLeast) (Nat.ne_of_gt needed)
    · exact known _ mentioned unknown
  · intro enough
    refine ⟨fun id mentioned unknown => enough (.undeclared mentioned unknown), ?_⟩
    intro least isLeast
    have needs : field.constraints.leastParts? = some least := by
      rw [declared]
      exact isLeast
    exact Nat.eq_zero_of_not_pos fun needed => enough (.tooFew needs needed)

/-- A null value is in order. -/
theorem checkValue_of_scalar {mode : Option CheckboxMode} (scalar : value.kind.hasParts = false)
    (nothing : value.isEmpty mode = true) : field.checkValue value = [] := by
  cases value with
  | string content | number content | singleSelect content | url content | date content
  | year content =>
    obtain rfl : content = none := by simpa [FieldValue.isEmpty] using nothing
    unfold checkValue
    cases field.constraints <;> rfl
  | stringList | multiSelect | checkboxes | urlList | table => cases scalar

theorem not_fallsShort_of_scalar (scalar : field.kind.hasParts = false)
    (sameKind : value.kind = field.kind) : ¬ field.FallsShort value := by
  have noCheckboxes : value.kind ≠ .checkboxes := by
    intro checkboxes
    rw [← sameKind, checkboxes] at scalar
    cases scalar
  have noneNeeded : field.constraints.leastParts? = none := by
    rw [FieldDefinition.kind] at scalar
    cases limits : field.constraints <;> simp_all [Constraints.leastParts?, Constraints.kind,
      FieldKind.hasParts]
  rw [not_fallsShort_iff noCheckboxes, noneNeeded]
  rintro _ ⟨⟩

/-- A value without an answer is in order exactly when it does not fall short. -/
theorem checkValue_eq_nil_iff (noTable : field.kind ≠ .table) (sameKind : value.kind = field.kind)
    (nothing : value.isEmpty field.checkboxMode? = true) :
    field.checkValue value = [] ↔ ¬ field.FallsShort value := by
  have kinds := sameKind
  rw [FieldDefinition.kind] at kinds noTable
  cases value with
  | string | number | singleSelect | url | date | year =>
    have scalar : field.kind.hasParts = false := by
      rw [← sameKind]
      rfl
    exact iff_of_true (checkValue_of_scalar rfl nothing)
      (not_fallsShort_of_scalar scalar sameKind)
  | stringList items | urlList items =>
    obtain rfl : items = [] := by simpa [FieldValue.isEmpty] using nothing
    rw [not_fallsShort_iff (by simp [FieldValue.kind])]
    cases declared : field.constraints <;>
      simp_all [FieldValue.kind, Constraints.kind, checkValue, Constraints.leastParts?,
        checkItems_nil_eq_nil_iff]
  | multiSelect selected =>
    obtain rfl : selected = [] := by simpa [FieldValue.isEmpty] using nothing
    rw [not_fallsShort_iff (by simp [FieldValue.kind])]
    cases declared : field.constraints <;>
      simp_all [FieldValue.kind, Constraints.kind, checkValue, Constraints.leastParts?,
        checkSelections_nil_eq_nil_iff]
  | checkboxes values =>
    cases declared : field.constraints with
    | checkboxes limits =>
      have untouched : ∀ state ∈ values.values, state = .initial limits.mode := by
        simpa [FieldValue.isEmpty, checkboxMode?_of_checkboxes declared] using nothing
      simp only [checkValue, declared]
      exact checkCheckboxes_eq_nil_iff declared untouched
    | _ => simp [declared, FieldValue.kind, Constraints.kind] at kinds
  | table => exact absurd kinds.symm noTable

/-- Of a value without an answer no text is left to remark on. -/
theorem texts_eq_nil {mode : Option CheckboxMode} (nothing : value.isEmpty mode = true) :
    value.texts = [] := by
  cases value <;> simp_all [FieldValue.isEmpty, FieldValue.texts]

end FieldDefinition

variable {field : FieldDefinition} {value : FieldValue}

/-- A response that counts as answered without being submitted is reported exactly when it falls
short, and then with an error. -/
theorem reported_iff_fallsShort (noTable : field.kind ≠ .table)
    (sameKind : value.kind = field.kind) (missing : isSubmitted field (.answered value) = false) :
    ((∃ issue ∈ validateField field (.answered value), issue.isError = true) ↔
        field.FallsShort value) ∧
      (¬ field.FallsShort value → validateField field (.answered value) = []) := by
  have nothing : value.isEmpty field.checkboxMode? = true := by
    simpa [isSubmitted_answered] using missing
  have checked : validateField field (.answered value) = field.checkValue value := by
    rw [validateField, FieldDefinition.checkAnswer, if_pos sameKind,
      FieldDefinition.texts_eq_nil nothing, List.flatMap_nil, List.nil_append]
  have silent := FieldDefinition.checkValue_eq_nil_iff noTable sameKind nothing
  rw [checked]
  refine ⟨⟨?_, ?_⟩, silent.mpr⟩
  · rintro ⟨issue, listed, _⟩
    apply Classical.byContradiction
    intro enough
    rw [silent.mpr enough] at listed
    cases listed
  · intro short
    obtain ⟨issue, listed⟩ := List.exists_mem_of_ne_nil _ fun none => silent.mp none short
    have severe := (FieldDefinition.finds_of_mem_checkValue listed).severity_eq
    exact ⟨issue, listed, by simp [Issue.isError, severe]⟩

/-- A text that has to be given. -/
def signature : FieldDefinition where
  id := "signature"
  label := "Signature"
  required := true
  priority := .high
  role := "user"
  validators := []
  constraints := .string ⟨none, none, none, ⟨none, []⟩⟩
  line := none

/-- Nobody has signed, and the response that says so passes as an answer. -/
theorem unreported_signature :
    let response : FieldResponse := .answered (.string none)
    signature.required = true ∧ signature.kind ≠ .table ∧
      (FieldValue.string none).kind = signature.kind ∧
      isSubmitted signature response = false ∧
      ¬ ∃ issue ∈ validateField signature response, issue.isError = true := by
  decide

/-- Two errands, of which one has to be done. -/
def errands : FieldDefinition where
  id := "errands"
  label := "Errands"
  required := true
  priority := .medium
  role := "user"
  validators := []
  constraints := .checkboxes
    ⟨[⟨"bank", "Bank"⟩, ⟨"post", "Post office"⟩], .simple, .none, some 1⟩
  line := none

/-- An answer that mentions an errand of which nothing is done is reported. -/
theorem reported_errands :
    let value : FieldValue := .checkboxes (.ofList [("post", .todo)])
    errands.kind ≠ .table ∧ value.kind = errands.kind ∧
      isSubmitted errands (.answered value) = false ∧
      ∃ issue ∈ validateField errands (.answered value), issue.isError = true := by
  intro value
  have noTable : errands.kind ≠ .table := by decide
  have missing : isSubmitted errands (.answered value) = false := by decide
  exact ⟨noTable, rfl, missing,
    (reported_iff_fallsShort noTable rfl missing).1.mpr (.tooFew rfl Nat.one_pos)⟩

end DocForm
