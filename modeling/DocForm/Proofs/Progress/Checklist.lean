import DocForm.Proofs.Field.WellFormed
import DocForm.Proofs.Progress.Completion

/-! When checkboxes are complete. Main statement: a field of checkboxes is complete once every option
that its answer mentions is in a final state, so options that the answer leaves out do not hold it
up, although they are counted in their initial state. -/

namespace DocForm

theorem forall_mem_tally_iff {α : Type} [BEq α] [LawfulBEq α] {members found : List α}
    (known : ∀ item ∈ found, item ∈ members) (test : α → Prop) :
    (∀ entry ∈ tally members found, test entry.1) ↔ ∀ item ∈ found, test item := by
  constructor
  · intro all item member
    refine all (item, found.count item) (List.mem_filter.mpr ⟨?_, ?_⟩)
    · exact List.mem_map.mpr ⟨item, known item member, rfl⟩
    · simpa [List.count_eq_zero] using member
  · intro all entry member
    obtain ⟨listed, counted⟩ := List.mem_filter.mp member
    obtain ⟨item, _, rfl⟩ := List.mem_map.mp listed
    exact all item (by simpa [List.count_eq_zero] using counted)

namespace CheckboxState

theorem mem_all (state : CheckboxState) : state ∈ all := by
  cases state <;> decide

theorem isFinal_initial (mode : CheckboxMode) : (initial mode).isFinal = false := by
  cases mode <;> rfl

end CheckboxState

/-- Every option is in a state that needs no more work. -/
def FieldProgress.IsSettled (progress : FieldProgress) : Prop :=
  ∃ states, progress.checkboxes = some states ∧ ∀ entry ∈ states, entry.1.isFinal = true

section Fields

variable {field : FieldDefinition} {limits : CheckboxLimits} {values : Dict CheckboxState}
  {issues : List Issue} {outside : Bool}

theorem errorsOf_eq_nil (accepted : ∀ issue ∈ issues, issue.isError = false) (fieldId : String) :
    errorsOf fieldId issues = [] := by
  rw [errorsOf, List.filter_eq_nil_iff]
  exact fun issue member => by simp [accepted issue member]

/-- A problem that is not reported is none. -/
theorem eq_false_of_errorIf {condition : Bool} {code : IssueCode} {reference : Reference}
    {message : String}
    (accepted : ∀ issue ∈ Issue.errorIf condition code reference message, issue.isError = false) :
    condition = false := by
  cases condition with
  | false => rfl
  | true => exact accepted ⟨code, .error, message, reference⟩ (List.mem_singleton_self _)

theorem validateField_checkboxes (declared : field.constraints = .checkboxes limits) :
    validateField field (.answered (.checkboxes values)) = field.checkCheckboxes limits values := by
  have sameKind : (FieldValue.checkboxes values).kind = field.kind := by
    rw [FieldDefinition.kind, declared]
    rfl
  simp only [validateField, FieldDefinition.checkAnswer, if_pos sameKind,
    FieldDefinition.checkValue, declared, FieldValue.texts, List.flatMap_nil, List.nil_append]

/-- An answer without errors mentions declared options only, each in a state of the mode. -/
theorem allow_of_accepted (declared : field.constraints = .checkboxes limits)
    (accepted : ∀ issue ∈ validateField field (.answered (.checkboxes values)),
      issue.isError = false) :
    field.constraints.Allow (.checkboxes values) := by
  rw [validateField_checkboxes declared] at accepted
  rw [declared]
  intro entry member
  have silent : ∀ issue ∈ field.checkState limits.mode entry.1 entry.2, issue.isError = false :=
    fun issue found => accepted issue
      (List.mem_append_left _ (List.mem_flatMap.mpr ⟨entry, member, found⟩))
  obtain ⟨known, legal⟩ := List.forall_mem_append.mp silent
  constructor
  · have listed : (field.option? entry.1).isNone = false := eq_false_of_errorIf known
    rw [FieldDefinition.option?, FieldDefinition.options_of_checkboxes declared] at listed
    simpa using listed
  · simpa using eq_false_of_errorIf legal

/-- Options in states of a mode are all worked on exactly when all are final. Every state of a
simple list is fine, so this does not hold there. -/
theorem checkboxesComplete_iff {mode : CheckboxMode} (worked : mode ≠ .simple)
    (legal : ∀ state ∈ values.values, state.allowedIn mode = true) :
    checkboxesComplete mode values = true ↔ ∀ state ∈ values.values, state.isFinal = true := by
  cases mode with
  | simple => exact absurd rfl worked
  | multi | explicit =>
    rw [checkboxesComplete, List.all_eq_true]
    refine forall₂_congr fun state member => ?_
    have allowed := legal state member
    revert allowed
    cases state <;> decide

theorem state_eq_complete_iff {response : FieldResponse}
    (submitted : isSubmitted field response = true)
    (accepted : ∀ issue ∈ issues, issue.isError = false) :
    (fieldProgress field response issues outside).state = .complete ↔
      isUnfinished field response = false := by
  simp only [fieldProgress, submitted, errorsOf_eq_nil accepted, List.length_nil,
    Nat.lt_irrefl, if_false, Bool.not_true, Bool.false_eq_true]
  split_ifs <;> simp_all

/-- The tally counts each declared option in the state that it is mentioned with, or else in the
initial one. -/
theorem isSettled_iff_states (declared : field.constraints = .checkboxes limits) :
    (fieldProgress field (.answered (.checkboxes values)) issues outside).IsSettled ↔
      ∀ option ∈ field.options,
        ((values.get? option.id).getD (.initial limits.mode)).isFinal = true := by
  simp only [FieldProgress.IsSettled, fieldProgress, checkboxTally?,
    FieldDefinition.checkboxMode?_of_checkboxes declared, Option.map_some,
    Option.some.injEq, exists_eq_left', Response.value?]
  rw [forall_mem_tally_iff (fun state _ => CheckboxState.mem_all state)
    fun state : CheckboxState => state.isFinal = true, List.forall_mem_map]

/-- Nothing is left to do by the tally exactly when every mentioned option is final and every option
is mentioned. -/
theorem isSettled_iff_mentioned (declared : field.constraints = .checkboxes limits)
    (allowed : field.constraints.Allow (.checkboxes values)) :
    (fieldProgress field (.answered (.checkboxes values)) issues outside).IsSettled ↔
      (∀ state ∈ values.values, state.isFinal = true) ∧
        ∀ option ∈ field.options, values.contains option.id = true := by
  have options := FieldDefinition.options_of_checkboxes declared
  rw [declared] at allowed
  rw [isSettled_iff_states declared]
  constructor
  · intro settled
    have mentioned : ∀ option ∈ field.options, ∃ state, values.get? option.id = some state ∧
        state.isFinal = true := by
      intro option member
      have final := settled option member
      cases found : values.get? option.id with
      -- An option that is left out is counted in its initial state, which is not final.
      | none => simp [found, CheckboxState.isFinal_initial] at final
      | some state => exact ⟨state, rfl, by simpa [found] using final⟩
    constructor
    · intro state member
      obtain ⟨⟨id, _⟩, present, rfl⟩ := List.mem_map.mp member
      obtain ⟨option, listed, rfl⟩ := List.mem_map.mp (allowed _ present).1
      obtain ⟨other, found, final⟩ := mentioned option (options ▸ listed)
      rw [Dict.get?_eq_some_iff.mpr present] at found
      cases found
      exact final
    · intro option member
      obtain ⟨state, found, _⟩ := mentioned option member
      rw [Dict.contains, found]
      rfl
  · rintro ⟨final, mentioned⟩ option member
    obtain ⟨state, found⟩ := Option.isSome_iff_exists.mp (mentioned option member)
    rw [found]
    exact final state (List.mem_map.mpr ⟨_, Dict.get?_eq_some_iff.mp found, rfl⟩)

theorem complete_iff_isFinal (declared : field.constraints = .checkboxes limits)
    (worked : limits.mode ≠ .simple)
    (submitted : isSubmitted field (.answered (.checkboxes values)) = true)
    (allowed : field.constraints.Allow (.checkboxes values))
    (accepted : ∀ issue ∈ issues, issue.isError = false) :
    (fieldProgress field (.answered (.checkboxes values)) issues outside).state = .complete ↔
      ∀ state ∈ values.values, state.isFinal = true := by
  rw [declared] at allowed
  have legal : ∀ state ∈ values.values, state.allowedIn limits.mode = true := by
    intro state member
    obtain ⟨entry, present, rfl⟩ := List.mem_map.mp member
    exact (allowed entry present).2
  rw [state_eq_complete_iff submitted accepted, ← checkboxesComplete_iff worked legal]
  simp [isUnfinished, FieldDefinition.checkboxMode?_of_checkboxes declared]

/-- An accepted answer is complete once every option that it mentions is final. Nothing is left to do
by the tally only if it mentions every option as well, so completion and tally agree exactly when a
complete answer leaves no option out. -/
theorem isSettled_iff_complete_and_mentioned (declared : field.constraints = .checkboxes limits)
    (worked : limits.mode ≠ .simple)
    (submitted : isSubmitted field (.answered (.checkboxes values)) = true)
    (accepted : ∀ issue ∈ validateField field (.answered (.checkboxes values)),
      issue.isError = false) (outside : Bool) :
    let response : FieldResponse := .answered (.checkboxes values)
    let progress := fieldProgress field response (validateField field response) outside
    let mentioned := ∀ option ∈ field.options, values.contains option.id = true
    (progress.state = .complete ↔ ∀ state ∈ values.values, state.isFinal = true) ∧
      (progress.IsSettled ↔ progress.state = .complete ∧ mentioned) ∧
      ((progress.state = .complete ↔ progress.IsSettled) ↔
        (progress.state = .complete → mentioned)) := by
  intro response progress mentioned
  have allowed := allow_of_accepted declared accepted
  have complete : progress.state = .complete ↔ _ :=
    complete_iff_isFinal declared worked submitted allowed accepted
  have settled : progress.IsSettled ↔ progress.state = .complete ∧ mentioned := by
    rw [complete]
    exact isSettled_iff_mentioned declared allowed
  refine ⟨complete, settled, ?_⟩
  rw [settled]
  exact iff_self_and

end Fields

/-- An answer that is read from a document mentions every option, so there completion and tally
agree. -/
theorem complete_iff_isSettled_of_readField {settings : Settings} {node : Node} {kind : FieldKind}
    {parsed : ParsedField} {limits : CheckboxLimits} {values : Dict CheckboxState}
    {issues : List Issue} {outside : Bool} (read : readField settings node kind = .ok parsed)
    (declared : parsed.definition.constraints = .checkboxes limits)
    (worked : limits.mode ≠ .simple) (answered : parsed.response = .answered (.checkboxes values))
    (accepted : ∀ issue ∈ issues, issue.isError = false) :
    let progress := fieldProgress parsed.definition parsed.response issues outside
    progress.state = .complete ↔ progress.IsSettled := by
  intro progress
  have submitted := (isSubmitted_iff_of_readField read).mpr ⟨_, answered⟩
  have allowed := (allow_of_readField read answered).1
  have cover := cover_of_readField read answered
  rw [declared] at cover
  have mentioned : ∀ option ∈ parsed.definition.options, values.contains option.id = true := by
    intro option member
    rw [FieldDefinition.options_of_checkboxes declared] at member
    exact Dict.contains_iff.mpr (cover.1.mem_iff.mpr (List.mem_map_of_mem member))
  have known : progress = fieldProgress parsed.definition (.answered (.checkboxes values)) issues
      outside := by rw [← answered]
  rw [answered] at submitted
  rw [known, complete_iff_isFinal declared worked submitted allowed accepted,
    isSettled_iff_mentioned declared allowed, and_iff_left mentioned]

/-- Two chores that are worked on one by one. -/
def chores : FieldDefinition where
  id := "chores"
  label := "Chores"
  required := false
  priority := .medium
  role := "agent"
  validators := []
  constraints := .checkboxes ⟨[⟨"dishes", "Dishes"⟩, ⟨"laundry", "Laundry"⟩], .multi, .none, none⟩
  line := none

/-- With one chore done and the other left out of the answer, the field is complete, and yet one
option is still to do. -/
theorem complete_chores :
    let response : FieldResponse := .answered (.checkboxes (.ofList [("dishes", .done)]))
    let progress := fieldProgress chores response (validateField chores response) false
    isSubmitted chores response = true ∧
      (∀ issue ∈ validateField chores response, issue.isError = false) ∧
      progress.state = .complete ∧ progress.checkboxes = some [(.todo, 1), (.done, 1)] ∧
      ¬ (progress.state = .complete ↔ progress.IsSettled) := by
  intro response progress
  have complete : progress.state = .complete := by decide
  have tallied : progress.checkboxes = some [(.todo, 1), (.done, 1)] := by decide
  refine ⟨by decide, by decide, complete, tallied, fun agree => ?_⟩
  obtain ⟨states, found, final⟩ := agree.mp complete
  rw [tallied] at found
  cases found
  have todo := final (.todo, 1) List.mem_cons_self
  cases todo

/-- With both chores mentioned, completion and tally agree. -/
theorem isSettled_chores :
    let response : FieldResponse :=
      .answered (.checkboxes (.ofList [("laundry", .na), ("dishes", .done)]))
    let progress := fieldProgress chores response (validateField chores response) false
    isSubmitted chores response = true ∧
      (∀ issue ∈ validateField chores response, issue.isError = false) ∧
      progress.state = .complete ∧ progress.IsSettled := by
  intro response progress
  have submitted : isSubmitted chores response = true := by decide
  have accepted : ∀ issue ∈ validateField chores response, issue.isError = false := by decide
  obtain ⟨complete_iff, settled_iff, _⟩ :=
    isSettled_iff_complete_and_mentioned rfl (by decide) submitted accepted false
  have complete : progress.state = .complete := complete_iff.mpr (by decide)
  exact ⟨submitted, accepted, complete, settled_iff.mpr ⟨complete, by decide⟩⟩

end DocForm
