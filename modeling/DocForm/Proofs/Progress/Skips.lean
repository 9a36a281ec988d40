import DocForm.Proofs.Progress.Counts
import DocForm.Proofs.Progress.Isolation

/-! Skips from outside the document. Main statement: marking more fields as skipped changes where
these fields stand and how many stand where, and nothing else. -/

namespace DocForm

/-- The progress of a field that is also marked as skipped. -/
def FieldProgress.skip (progress : FieldProgress) : FieldProgress :=
  { progress with responseState := .skipped }

namespace ProgressCounts

/-- Two counts agree on all but where responses stand. -/
structure AgreeOnWork (first second : ProgressCounts) : Prop where
  total : second.total = first.total
  required : second.required = first.required
  submitted : second.submitted = first.submitted
  complete : second.complete = first.complete
  incomplete : second.incomplete = first.incomplete
  invalid : second.invalid = first.invalid
  emptyRequired : second.emptyRequired = first.emptyRequired
  emptyOptional : second.emptyOptional = first.emptyOptional

namespace AgreeOnWork

variable {first second : ProgressCounts}

/-- Counting one more field keeps the agreement, wherever its response stands on either side. -/
theorem add (agree : first.AgreeOnWork second) (progress : FieldProgress) (state : ResponseState) :
    (first.add progress).AgreeOnWork (second.add { progress with responseState := state }) where
  total := congrArg (· + 1) agree.total
  required := congrArg (· + _) agree.required
  submitted := congrArg (· + _) agree.submitted
  complete := congrArg (· + _) agree.complete
  incomplete := congrArg (· + _) agree.incomplete
  invalid := congrArg (· + _) agree.invalid
  emptyRequired := congrArg (· + _) agree.emptyRequired
  emptyOptional := congrArg (· + _) agree.emptyOptional

theorem formState_eq (agree : first.AgreeOnWork second) : second.formState = first.formState := by
  rw [formState, formState, agree.invalid, agree.incomplete, agree.emptyRequired, agree.submitted]

end AgreeOnWork

/-- Fields that agree but for where their responses stand are counted alike but for that. -/
theorem agreeOnWork_ofFields {α : Type} (one other : α → FieldProgress)
    (same : ∀ item, other item = { one item with responseState := (other item).responseState })
    (items : List α) : (ofFields (items.map one)).AgreeOnWork (ofFields (items.map other)) := by
  suffices grown : ∀ first second : ProgressCounts, first.AgreeOnWork second →
      ((items.map one).foldl add first).AgreeOnWork ((items.map other).foldl add second) from
    grown {} {} ⟨rfl, rfl, rfl, rfl, rfl, rfl, rfl, rfl⟩
  induction items with
  | nil => exact fun _ _ agree => agree
  | cons item rest ih =>
    intro first second agree
    rw [List.map_cons, List.map_cons, List.foldl_cons, List.foldl_cons, same item]
    exact ih _ _ (agree.add _ _)

end ProgressCounts

section Summaries

variable {schema : FormSchema} {responses : Responses} {issues : List Issue}
  {skipped more : List String}

theorem agreeOnWork_summarise :
    (summarise schema responses issues skipped).counts.AgreeOnWork
      (summarise schema responses issues more).counts := by
  simp only [summarise, progressList, List.map_map]
  exact ProgressCounts.agreeOnWork_ofFields _ _ (fun _ => rfl) _

/-- An entry after more fields have been marked as skipped. -/
def turned (skipped more : List String) (id : String) (progress : FieldProgress) : FieldProgress :=
  if id ∈ more ∧ id ∉ skipped then progress.skip else progress

theorem turned_fieldProgress (within : skipped ⊆ more) (field : FieldDefinition)
    (response : FieldResponse) :
    turned skipped more field.id
        (fieldProgress field response issues (skipped.contains field.id)) =
      fieldProgress field response issues (more.contains field.id) := by
  by_cases before : field.id ∈ skipped
  · have after := within before
    simp [turned, before, after]
  · by_cases after : field.id ∈ more
    · simp [turned, before, after, fieldProgress, FieldProgress.skip]
    · simp [turned, before, after]

theorem get?_summarise_of_subset (within : skipped ⊆ more) (id : String) :
    (summarise schema responses issues more).fields.get? id =
      ((summarise schema responses issues skipped).fields.get? id).map (turned skipped more id) := by
  have listed : progressList schema responses issues more =
      (progressList schema responses issues skipped).map fun entry =>
        (entry.1, turned skipped more entry.1 entry.2) := by
    rw [progressList, progressList, List.map_map]
    exact List.map_congr_left fun field _ => by rw [Function.comp, turned_fieldProgress within]
  rw [summarise, summarise, listed]
  exact Dict.get?_ofList_map (turned skipped more) _ id

theorem listed_summarise (id : String) :
    ((summarise schema responses issues skipped).fields.get? id).isSome = true ↔
      id ∈ schema.fields.map (·.id) := by
  rw [← Dict.contains, summarise, Dict.contains_ofList, keys_progressList]

/-- The field stands as skipped. -/
def ProgressSummary.isSkipped (summary : ProgressSummary) (id : String) : Bool :=
  (summary.fields.get? id).any fun progress => progress.responseState == .skipped

/-- The fields that are skipped in a second summary and not in the first. -/
def FormSchema.newlySkipped (schema : FormSchema) (first second : ProgressSummary) :
    List FieldDefinition :=
  schema.fields.filter fun field => second.isSkipped field.id && !first.isSkipped field.id

theorem skipped_summarise (distinct : (schema.fields.map (·.id)).Nodup) :
    (summarise schema responses issues skipped).counts.skipped =
      schema.fields.countP fun field =>
        (summarise schema responses issues skipped).isSkipped field.id := by
  have counted : (summarise schema responses issues skipped).counts.skipped = _ :=
    ProgressCounts.ofFields_skipped _
  rw [counted, progressList, List.map_map, List.countP_map]
  refine List.countP_congr fun field member => ?_
  rw [ProgressSummary.isSkipped, get?_summarise distinct member, fieldProgress_issuesOf]
  rfl

theorem isSkipped_of_subset (within : skipped ⊆ more) {id : String}
    (before : (summarise schema responses issues skipped).isSkipped id = true) :
    (summarise schema responses issues more).isSkipped id = true := by
  rw [ProgressSummary.isSkipped, Option.any_eq_true] at before ⊢
  obtain ⟨progress, found, stands⟩ := before
  refine ⟨_, by rw [get?_summarise_of_subset within, found, Option.map_some], ?_⟩
  unfold turned
  split
  · rfl
  · exact stands

theorem skipped_add_newlySkipped (distinct : (schema.fields.map (·.id)).Nodup)
    (within : skipped ⊆ more) :
    let first := summarise schema responses issues skipped
    let second := summarise schema responses issues more
    second.counts.skipped = first.counts.skipped + (schema.newlySkipped first second).length := by
  intro first second
  have stillSkipped : ∀ field ∈ schema.fields,
      (second.isSkipped field.id && first.isSkipped field.id) = first.isSkipped field.id := by
    intro field _
    cases before : first.isSkipped field.id with
    | false => rw [Bool.and_false]
    | true => rw [isSkipped_of_subset within before, Bool.and_true]
  rw [skipped_summarise distinct, skipped_summarise distinct,
    List.countP_eq_countP_filter_add _ _ fun field => first.isSkipped field.id,
    List.countP_filter, List.countP_filter, FormSchema.newlySkipped,
    ← List.countP_eq_length_filter]
  congr 1
  exact List.countP_congr fun field member => by rw [stillSkipped field member]

/-- When every field is marked as skipped, all count as skipped and none as answered. -/
theorem skipped_eq_total (responses : Responses) (issues : List Issue)
    (all : ∀ field ∈ schema.fields, field.id ∈ more) :
    let counts := (summarise schema responses issues more).counts
    counts.skipped = counts.total ∧ counts.answered = 0 := by
  have stands : ∀ progress ∈ (progressList schema responses issues more).map (·.2),
      progress.responseState = .skipped := by
    intro progress member
    simp only [progressList, List.map_map, List.mem_map, Function.comp_apply] at member
    obtain ⟨field, present, rfl⟩ := member
    simp [fieldProgress, all field present]
  simp only [summarise, ProgressCounts.ofFields_skipped, ProgressCounts.ofFields_total,
    ProgressCounts.ofFields_answered]
  constructor
  · rw [List.countP_eq_length]
    exact fun progress member => by simp [stands progress member]
  · rw [List.countP_eq_zero]
    exact fun progress member => by simp [stands progress member]

/-- How two summaries of a form differ when the second has more fields marked as skipped. -/
structure DiffersInSkips (schema : FormSchema) (skipped more : List String)
    (first second : ProgressSummary) : Prop where
  structured : second.structured = first.structured
  /-- There is an entry for each field of the form, and no other. -/
  listed : ∀ id, (first.fields.get? id).isSome = true ↔ id ∈ schema.fields.map (·.id)
  /-- Only newly marked fields change, and only where they stand. -/
  entries : ∀ id, second.fields.get? id = (first.fields.get? id).map (turned skipped more id)
  work : first.counts.AgreeOnWork second.counts
  formState : second.counts.formState = first.counts.formState
  skipped : second.counts.skipped =
    first.counts.skipped + (schema.newlySkipped first second).length

theorem DiffersInSkips.of_subset (responses : Responses) (issues : List Issue)
    (distinct : (schema.fields.map (·.id)).Nodup) (within : skipped ⊆ more) :
    DiffersInSkips schema skipped more (summarise schema responses issues skipped)
      (summarise schema responses issues more) where
  structured := rfl
  listed := listed_summarise
  entries := get?_summarise_of_subset within
  work := agreeOnWork_summarise
  formState := agreeOnWork_summarise.formState_eq
  skipped := skipped_add_newlySkipped distinct within

/-- Marking more fields as skipped changes where they stand and how many are skipped. Once every
field is marked, a form is finished exactly when its state is complete. -/
theorem differsInSkips_of_subset (responses : Responses) (issues : List Issue)
    (distinct : (schema.fields.map (·.id)).Nodup) (within : skipped ⊆ more) :
    let first := summarise schema responses issues skipped
    let second := summarise schema responses issues more
    DiffersInSkips schema skipped more first second ∧
      ((∀ field ∈ schema.fields, field.id ∈ more) →
        (second.counts.isComplete = true ↔ second.counts.formState = .complete)) := by
  intro first second
  refine ⟨.of_subset responses issues distinct within, fun all => ?_⟩
  obtain ⟨allSkipped, noneAnswered⟩ := skipped_eq_total responses issues all
  have settled : second.counts.answered + second.counts.skipped = second.counts.total := by
    rw [noneAnswered, allSkipped, Nat.zero_add]
  rw [ProgressCounts.isComplete_iff, and_iff_left (.inr settled)]

end Summaries

/-- A form that asks for three names. -/
def fullName : FormSchema :=
  ⟨"name", none, [⟨none, none, [nameField "first", nameField "middle", nameField "last"]⟩]⟩

/-- One name is given, one given up and one left out. Of three newly marked fields the last is
skipped already, and a name that the form does not ask for counts for nothing. -/
theorem differsInSkips_fullName :
    let responses : Responses := .ofList [("first", .answered (.string (some "Ada"))),
      ("middle", .aborted none), ("last", .skipped (some "unknown"))]
    let first := summarise fullName responses [] ["nickname"]
    let second := summarise fullName responses [] ["nickname", "first", "middle", "last"]
    DiffersInSkips fullName ["nickname"] ["nickname", "first", "middle", "last"] first second ∧
      first.counts.skipped = 1 ∧ second.counts.skipped = 3 ∧
      (second.counts.isComplete = true ↔ second.counts.formState = .complete) := by
  intro responses first second
  have distinct : (fullName.fields.map (·.id)).Nodup := by decide
  have within : ["nickname"] ⊆ ["nickname", "first", "middle", "last"] := by decide
  have all : ∀ field ∈ fullName.fields, field.id ∈ ["nickname", "first", "middle", "last"] := by
    decide
  obtain ⟨differs, finished⟩ := differsInSkips_of_subset responses [] distinct within
  have before : first.counts.skipped = 1 := by decide +kernel
  have new : (fullName.newlySkipped first second).length = 2 := by decide +kernel
  refine ⟨differs, before, ?_, finished all⟩
  rw [differs.skipped, before, new]

end DocForm
