import DocForm.Proofs.Field.Parts
import DocForm.Proofs.Pattern.Match
import DocForm.Proofs.Validation.Table

/-! What the checks of a field can find. Main statements: every issue with a response is of one of
a few sorts, each with its code, its weight and what it is about; a value is reported as missing
exactly where the field needs one, is no table and was not answered; and a text fails its pattern
exactly where the pattern leads nowhere in it. -/

namespace DocForm

/-- The value speaks of an option. -/
inductive FieldValue.Mentions : FieldValue → String → Prop where
  | selected {id : String} : Mentions (.singleSelect (some id)) id
  | listed {selected : List String} {id : String} (member : id ∈ selected) :
      Mentions (.multiSelect selected) id
  | marked {values : Dict CheckboxState} {entry : String × CheckboxState}
      (member : entry ∈ values.entries) : Mentions (.checkboxes values) entry.1

/-- What the checks of a value find, whatever the value is. -/
inductive FieldDefinition.Finds (field : FieldDefinition) : FieldValue → Issue → Prop where
  | limit {value : FieldValue} {issue : Issue} (isLimit : issue.IsLimit field.id) :
      Finds field value issue
  | option {value : FieldValue} {id message : String} (mentions : value.Mentions id)
      (undeclared : field.option? id = none) :
      Finds field value ⟨.unknownOption, .error, message, .option field.id id⟩
  | state {limits : CheckboxLimits} {values : Dict CheckboxState}
      {entry : String × CheckboxState} {message : String}
      (declared : field.constraints = .checkboxes limits) (member : entry ∈ values.entries)
      (outside : entry.2.allowedIn limits.mode = false) :
      Finds field (.checkboxes values)
        ⟨.invalidCheckboxState, .error, message, .option field.id entry.1⟩
  | cell {limits : TableLimits} {rows : List TableRow} {faulty : FaultyCell}
      (declared : field.constraints = .table limits)
      (listed : faulty ∈ faultyCells limits.columns rows) :
      Finds field (.table rows) (faulty.issue field.id)

/-- What is found wrong with a response. -/
inductive Finding (field : FieldDefinition) : FieldResponse → Issue → Prop where
  | value {value : FieldValue} {issue : Issue} (sameKind : value.kind = field.kind)
      (found : field.Finds value issue) : Finding field (.answered value) issue
  | remark {value : FieldValue} {text : String} {issue : Issue}
      (sameKind : value.kind = field.kind) (typed : text ∈ value.texts)
      (found : issue ∈ field.checkSentinel text) : Finding field (.answered value) issue
  | otherKind {value : FieldValue} {message : String} (different : value.kind ≠ field.kind) :
      Finding field (.answered value) ⟨.kindMismatch, .error, message, .field field.id⟩
  | missing {message : String} (needed : field.required = true) (noTable : field.kind ≠ .table) :
      Finding field .unanswered ⟨.requiredMissing, .error, message, .field field.id⟩
  | noRows {issue : Issue} (needed : field.required = true) (table : field.kind = .table)
      (isLimit : issue.IsLimit field.id) : Finding field .unanswered issue

variable {field : FieldDefinition} {value : FieldValue} {response : FieldResponse}
  {code : IssueCode} {message : String} {issue : Issue}

namespace FieldDefinition

theorem mem_checkSentinel_iff {text : String} :
    issue ∈ field.checkSentinel text ↔ (Sentinel.detect? text).isSome = true ∧
      issue = ⟨.sentinelValue, .warning,
        s!"Value '{text}' looks like a sentinel; write %SKIP% or %ABORT% on its own",
        .field field.id⟩ := by
  rw [checkSentinel, List.mem_ite_nil_right, List.mem_singleton]

theorem remark_of_mem {texts : List String} (member : issue ∈ texts.flatMap field.checkSentinel) :
    issue.code = .sentinelValue ∧ issue.severity = .warning := by
  obtain ⟨text, _, found⟩ := List.mem_flatMap.mp member
  rw [(mem_checkSentinel_iff.mp found).2]
  exact ⟨rfl, rfl⟩

theorem codesOf_checkUnanswered (noTable : field.kind ≠ .table) :
    codesOf field.checkUnanswered = if field.required then [.requiredMissing] else [] := by
  unfold checkUnanswered
  split
  · rename_i limits declared
    exact absurd (by rw [kind, declared]; rfl) noTable
  · exact codesOf_errorIf

theorem isLimit_checkBound {α : Type} {bound : Option α} {broken : α → Bool} {message : α → String}
    (limit : code.isLimit = true) :
    ∀ issue ∈ field.checkBound code bound broken message, issue.IsLimit field.id := by
  cases bound with
  | none => exact List.forall_mem_nil _
  | some bound => exact isLimit_errorIf limit

theorem isLimit_checkPattern (pattern text : String) :
    ∀ issue ∈ field.checkPattern pattern text, issue.IsLimit field.id := by
  unfold checkPattern
  split
  · exact isLimit_errorIf rfl
  · exact isLimit_errorIf rfl

/-- A text is reported when its pattern can be read and leads from no place of the text to any. -/
theorem patternMismatch_mem_codesOf_iff {pattern text : String} :
    .patternMismatch ∈ codesOf (field.checkPattern pattern text) ↔
      ∃ expected, Pattern.ofString? pattern = some expected ∧
        ∀ i j, i ≤ text.toList.length → ¬ expected.Spans text.toList i j := by
  unfold checkPattern
  split
  · rename_i unread
    simp [unread]
  · rename_i expected read
    have reported : (!expected.isFoundIn text) = true ↔
        ∀ i j, i ≤ text.toList.length → ¬ expected.Spans text.toList i j := by
      simp only [Bool.not_eq_true', ← Bool.not_eq_true, Pattern.isFoundIn_iff, not_exists, not_and]
    simp [read, reported]

theorem isLimit_checkText (limits : StringLimits) (text : String) :
    ∀ issue ∈ field.checkLength limits text ++
      (limits.pattern.map fun pattern => field.checkPattern pattern text).getD [],
      issue.IsLimit field.id := by
  refine List.forall_mem_append.mpr ⟨List.forall_mem_append.mpr ⟨?_, ?_⟩, ?_⟩
  · exact isLimit_checkBound rfl
  · exact isLimit_checkBound rfl
  · cases limits.pattern with
    | none => exact List.forall_mem_nil _
    | some pattern => exact isLimit_checkPattern pattern text

theorem isLimit_checkRange (number : Float) (min max : Option Float) :
    ∀ issue ∈ field.checkRange number min max, issue.IsLimit field.id :=
  List.forall_mem_append.mpr ⟨isLimit_checkBound rfl, isLimit_checkBound rfl⟩

theorem isLimit_checkRepeats (seen items : List String) :
    ∀ issue ∈ field.checkRepeats seen items, issue.IsLimit field.id := by
  induction items generalizing seen with
  | nil => exact List.forall_mem_nil _
  | cons item rest ih =>
    exact List.forall_mem_append.mpr ⟨isLimit_errorIf rfl, ih (item :: seen)⟩

theorem isLimit_checkItems (limits : ListLimits) (items : List String) :
    ∀ issue ∈ field.checkItems limits items, issue.IsLimit field.id := by
  have lengths : ∀ issue ∈ items.flatMap (field.checkItemLength limits), issue.IsLimit field.id :=
    List.forall_mem_flatMap.mpr fun _ _ =>
      List.forall_mem_append.mpr ⟨isLimit_checkBound rfl, isLimit_checkBound rfl⟩
  refine List.forall_mem_append.mpr ⟨List.forall_mem_append.mpr
    ⟨List.forall_mem_append.mpr ⟨?_, ?_⟩, lengths⟩, ?_⟩
  · exact isLimit_checkBound rfl
  · exact isLimit_checkBound rfl
  · split
    · exact isLimit_checkRepeats [] items
    · exact List.forall_mem_nil _

theorem isLimit_checkDate (limits : DateLimits) (text : String) :
    ∀ issue ∈ field.checkDate limits text, issue.IsLimit field.id := by
  unfold checkDate
  split
  · exact isLimit_errorIf rfl
  · exact List.forall_mem_append.mpr ⟨isLimit_checkBound rfl, isLimit_checkBound rfl⟩

theorem finds_checkOption {id : String} (mentions : value.Mentions id) :
    ∀ issue ∈ field.checkOption id, field.Finds value issue := by
  intro issue member
  obtain ⟨unknown, rfl⟩ := Issue.mem_errorIf_iff.mp member
  exact .option mentions (by simpa using unknown)

theorem finds_checkSelections (limits : MultiSelectLimits) (selected : List String) :
    ∀ issue ∈ field.checkSelections limits selected, field.Finds (.multiSelect selected) issue := by
  have known : ∀ issue ∈ selected.flatMap field.checkOption,
      field.Finds (.multiSelect selected) issue :=
    List.forall_mem_flatMap.mpr fun _ member => finds_checkOption (.listed member)
  refine List.forall_mem_append.mpr ⟨List.forall_mem_append.mpr ⟨known, ?_⟩, ?_⟩
  · exact fun issue member => .limit (isLimit_checkBound rfl issue member)
  · exact fun issue member => .limit (isLimit_checkBound rfl issue member)

theorem finds_checkCheckboxes {limits : CheckboxLimits}
    (declared : field.constraints = .checkboxes limits) (values : Dict CheckboxState) :
    ∀ issue ∈ field.checkCheckboxes limits values, field.Finds (.checkboxes values) issue := by
  refine List.forall_mem_append.mpr ⟨List.forall_mem_flatMap.mpr fun entry member => ?_, ?_⟩
  · refine List.forall_mem_append.mpr ⟨finds_checkOption (.marked member), fun issue found => ?_⟩
    obtain ⟨outside, rfl⟩ := Issue.mem_errorIf_iff.mp found
    exact .state declared member (by simpa using outside)
  · exact fun issue member => .limit (isLimit_checkBound rfl issue member)

theorem finds_validateTable {limits : TableLimits} (declared : field.constraints = .table limits)
    (required : Bool) (rows : List TableRow) :
    ∀ issue ∈ validateTable field.id required limits rows, field.Finds (.table rows) issue := by
  rw [validateTable_eq]
  refine List.forall_mem_append.mpr ⟨?_, List.forall_mem_map.mpr fun faulty listed => ?_⟩
  · exact fun issue member => .limit (isLimit_checkRowCount issue member)
  · exact .cell declared listed

/-- The checks of a value, kind by kind. -/
theorem finds_of_mem_checkValue (member : issue ∈ field.checkValue value) :
    field.Finds value issue := by
  unfold checkValue at member
  split at member
  case h_1 _ limits text _ => exact .limit (isLimit_checkText limits text issue member)
  case h_2 _ limits number _ =>
    rcases List.mem_append.mp member with range | whole
    · exact .limit (isLimit_checkRange number _ _ issue range)
    · exact .limit (isLimit_errorIf rfl issue whole)
  case h_3 _ limits items _ => exact .limit (isLimit_checkItems limits items issue member)
  case h_4 _ limits items _ =>
    rcases List.mem_append.mp member with listed | addressed
    · exact .limit (isLimit_checkItems limits items issue listed)
    · obtain ⟨item, _, found⟩ := List.mem_flatMap.mp addressed
      exact .limit (isLimit_errorIf rfl issue found)
  case h_5 => exact .limit (isLimit_errorIf rfl issue member)
  case h_6 _ limits text _ => exact .limit (isLimit_checkDate limits text issue member)
  case h_7 => exact .limit (isLimit_checkRange _ _ _ issue member)
  case h_8 => exact finds_checkOption .selected issue member
  case h_9 _ limits selected _ => exact finds_checkSelections limits selected issue member
  case h_10 _ limits values declared => exact finds_checkCheckboxes declared values issue member
  case h_11 _ limits rows declared =>
    exact finds_validateTable declared field.required rows issue member
  case h_12 => cases member

theorem Finds.severity_eq (found : field.Finds value issue) : issue.severity = .error := by
  cases found with
  | limit isLimit => exact isLimit.severity
  | option | state | cell => rfl

theorem Finds.fieldId_eq (found : field.Finds value issue) :
    issue.reference.fieldId = field.id := by
  cases found with
  | limit isLimit =>
    rw [isLimit.reference]
    rfl
  | option | state | cell => rfl

theorem Finds.code_ne_requiredMissing (found : field.Finds value issue) :
    issue.code ≠ .requiredMissing := by
  intro missing
  cases found with
  | limit isLimit => exact isLimit.code_ne_requiredMissing missing
  | option | state => cases missing
  | @cell limits rows faulty =>
    obtain ⟨row, columnId, fault⟩ := faulty
    cases fault <;> cases missing

end FieldDefinition

theorem finding_of_mem_checkAnswer (member : issue ∈ field.checkAnswer value) :
    Finding field (.answered value) issue := by
  unfold FieldDefinition.checkAnswer at member
  split at member
  · rename_i sameKind
    rcases List.mem_append.mp member with inTexts | inValue
    · obtain ⟨text, typed, found⟩ := List.mem_flatMap.mp inTexts
      exact .remark sameKind typed found
    · exact .value sameKind (FieldDefinition.finds_of_mem_checkValue inValue)
  · rename_i different
    obtain ⟨_, rfl⟩ := Issue.mem_errorIf_iff.mp member
    exact .otherKind different

theorem finding_of_mem_checkUnanswered (member : issue ∈ field.checkUnanswered) :
    Finding field .unanswered issue := by
  unfold FieldDefinition.checkUnanswered at member
  split at member
  · rename_i limits declared
    obtain ⟨needed, member⟩ := List.mem_ite_nil_right.mp member
    rw [validateTable, checkRows, List.append_nil] at member
    have table : field.kind = .table := by rw [FieldDefinition.kind, declared]; rfl
    exact .noRows needed table (isLimit_checkRowCount issue member)
  · rename_i noTable
    obtain ⟨needed, rfl⟩ := Issue.mem_errorIf_iff.mp member
    refine .missing needed fun table => ?_
    obtain ⟨limits, declared⟩ := FieldDefinition.exists_of_kind_table table
    exact noTable limits declared

theorem finding_of_mem_validateField (member : issue ∈ validateField field response) :
    Finding field response issue := by
  cases response with
  | unanswered => exact finding_of_mem_checkUnanswered member
  | answered value => exact finding_of_mem_checkAnswer member
  | skipped reason | aborted reason => cases member

namespace Finding

theorem fieldId_eq (finding : Finding field response issue) :
    issue.reference.fieldId = field.id := by
  cases finding with
  | value sameKind found => exact found.fieldId_eq
  | remark sameKind typed found =>
    rw [(FieldDefinition.mem_checkSentinel_iff.mp found).2]
    rfl
  | otherKind | missing => rfl
  | noRows needed table isLimit =>
    rw [isLimit.reference]
    rfl

/-- A field that nobody answered has an issue only if it is required. -/
theorem required (finding : Finding field .unanswered issue) : field.required = true := by
  cases finding with
  | missing needed | noRows needed => exact needed

theorem missing_of_code (finding : Finding field response issue)
    (code : issue.code = .requiredMissing) :
    response = .unanswered ∧ field.required = true ∧ field.kind ≠ .table := by
  cases finding with
  | value sameKind found => exact absurd code found.code_ne_requiredMissing
  | remark sameKind typed found =>
    rw [(FieldDefinition.mem_checkSentinel_iff.mp found).2] at code
    cases code
  | otherKind => cases code
  | missing needed noTable => exact ⟨rfl, needed, noTable⟩
  | noRows needed table isLimit => exact absurd code isLimit.code_ne_requiredMissing

end Finding

/-- A value is reported as missing when the field is required, is no table and was not answered, and
never otherwise: an answer without content, a skipped and an aborted field are not. -/
theorem requiredMissing_mem_codesOf_validateField_iff :
    .requiredMissing ∈ codesOf (validateField field response) ↔
      response = .unanswered ∧ field.required = true ∧ field.kind ≠ .table := by
  constructor
  · intro reported
    obtain ⟨issue, member, code⟩ := mem_codesOf.mp reported
    exact (finding_of_mem_validateField member).missing_of_code code
  · rintro ⟨rfl, needed, noTable⟩
    rw [validateField, FieldDefinition.codesOf_checkUnanswered noTable, if_pos needed]
    exact List.mem_singleton_self _

/-- The warnings with a field are the remarks on the texts of its answer. -/
theorem warning_mem_validateField_iff :
    (issue ∈ validateField field response ∧ issue.severity = .warning) ↔
      ∃ value, response = .answered value ∧ value.kind = field.kind ∧
        ∃ text ∈ value.texts, issue ∈ field.checkSentinel text := by
  constructor
  · rintro ⟨member, warns⟩
    cases finding_of_mem_validateField member with
    | remark sameKind typed found => exact ⟨_, rfl, sameKind, _, typed, found⟩
    | value sameKind found =>
      rw [found.severity_eq] at warns
      cases warns
    | otherKind | missing => cases warns
    | noRows needed table isLimit =>
      rw [isLimit.severity] at warns
      cases warns
  · rintro ⟨value, rfl, sameKind, text, typed, found⟩
    have remarked := List.mem_flatMap.mpr ⟨text, typed, found⟩
    refine ⟨?_, (FieldDefinition.remark_of_mem remarked).2⟩
    rw [validateField, FieldDefinition.checkAnswer, if_pos sameKind]
    exact List.mem_append_left _ remarked

end DocForm
