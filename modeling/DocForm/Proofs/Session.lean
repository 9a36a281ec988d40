import DocForm.Proofs.Progress.Skips
import DocForm.Proofs.Validation.Address
import DocForm.Session

/-! Filling in a form step by step. Main statements: whatever is done with other fields, a field
keeps its response, its issues and its progress; answers leave the skips alone, and skips leave the
answers and all that is said of them alone. -/

namespace DocForm.Session

/-- What can be done with a session. -/
inductive Change where
  | set (fieldId : String) (response : FieldResponse)
  | remove (fieldId : String)
  | reparse (node : Node)
  | skip (fieldId : String)
  | unskip (fieldId : String)

/-- The session after a change. A tag that cannot be read changes nothing. -/
def apply (session : Session) : Change → Session
  | .set fieldId response => (session.set fieldId response).2
  | .remove fieldId => (session.remove fieldId).2
  | .reparse node =>
    match session.reparse node with
    | .ok (_, after) => after
    | .error _ => session
  | .skip fieldId => (session.skip fieldId).2
  | .unskip fieldId => (session.unskip fieldId).2

def run (session : Session) (changes : List Change) : Session := changes.foldl apply session

namespace Change

/-- The answer that a change stores, if it stores one. A tag says which field it answers. -/
def answer? (settings : Settings) : Change → Option (String × FieldResponse)
  | .set fieldId response => some (fieldId, response)
  | .reparse node =>
    match parseField settings node with
    | .ok (some parsed) => some (parsed.definition.id, parsed.response)
    | _ => none
  | .remove _ | .skip _ | .unskip _ => none

/-- The field that a change is about. -/
def fieldId? (settings : Settings) : Change → Option String
  | .remove fieldId | .skip fieldId | .unskip fieldId => some fieldId
  | change => (change.answer? settings).map (·.1)

/-- The change marks a field as skipped or no longer so. -/
def isMark : Change → Bool
  | .skip _ | .unskip _ => true
  | .set _ _ | .remove _ | .reparse _ => false

end Change

/-- What a change does to a session, with the conditions under which it does it. -/
inductive Effect (before : Session) : Change → Session → Prop where
  | stored {change : Change} {fieldId : String} {response : FieldResponse}
      (answers : change.answer? before.settings = some (fieldId, response)) :
      Effect before change { before with responses := before.responses.insert fieldId response }
  | removed {fieldId : String} :
      Effect before (.remove fieldId) { before with responses := before.responses.erase fieldId }
  | unread {node : Node} (noAnswer : (Change.reparse node).answer? before.settings = none) :
      Effect before (.reparse node) before
  | marked {fieldId : String} (fresh : fieldId ∉ before.skipped) :
      Effect before (.skip fieldId) { before with skipped := fieldId :: before.skipped }
  | stillMarked {fieldId : String} (known : fieldId ∈ before.skipped) :
      Effect before (.skip fieldId) before
  | unmarked {fieldId : String} (known : fieldId ∈ before.skipped) :
      Effect before (.unskip fieldId)
        { before with skipped := before.skipped.filter (· ≠ fieldId) }
  | stillUnmarked {fieldId : String} (fresh : fieldId ∉ before.skipped) :
      Effect before (.unskip fieldId) before

variable {session before after : Session} {change : Change} {changes : List Change}
  {field : FieldDefinition} {fieldId : String} {response : FieldResponse} {settings : Settings}

namespace Change

theorem fieldId?_of_answer? (answers : change.answer? settings = some (fieldId, response)) :
    change.fieldId? settings = some fieldId := by
  cases change with
  | set | reparse => exact congrArg (Option.map Prod.fst) answers
  | remove | skip | unskip => cases answers

theorem isMark_of_answer? (answers : change.answer? settings = some (fieldId, response)) :
    change.isMark = false := by
  cases change with
  | set | reparse => rfl
  | remove | skip | unskip => cases answers

end Change

theorem effect_reparse (session : Session) (node : Node) :
    Effect session (.reparse node) (session.apply (.reparse node)) := by
  cases read : parseField session.settings node with
  | error fault =>
    simp only [apply, reparse, read]
    exact .unread (by simp only [Change.answer?, read])
  | ok found =>
    cases found with
    | none =>
      simp only [apply, reparse, read]
      exact .unread (by simp only [Change.answer?, read])
    | some parsed =>
      simp only [apply, reparse, read]
      exact .stored (by simp only [Change.answer?, read])

theorem effect_apply (session : Session) (change : Change) :
    Effect session change (session.apply change) := by
  cases change with
  | set fieldId response => exact .stored rfl
  | remove fieldId => exact .removed
  | reparse node => exact effect_reparse session node
  | skip fieldId =>
    by_cases known : fieldId ∈ session.skipped
    · simp only [apply, skip, List.contains_iff_mem, known, if_true]
      exact .stillMarked known
    · simp only [apply, skip, List.contains_iff_mem, known, if_false]
      exact .marked known
  | unskip fieldId =>
    by_cases known : fieldId ∈ session.skipped
    · simp only [apply, unskip, List.contains_iff_mem, known, if_true]
      exact .unmarked known
    · simp only [apply, unskip, List.contains_iff_mem, known, if_false]
      exact .stillUnmarked known

namespace Effect

theorem settings_eq (effect : Effect before change after) : after.settings = before.settings := by
  cases effect <;> rfl

theorem schema_eq (effect : Effect before change after) : after.schema = before.schema := by
  cases effect <;> rfl

theorem skipped_eq (effect : Effect before change after) (noMark : change.isMark = false) :
    after.skipped = before.skipped := by
  cases effect with
  | stored | removed | unread => rfl
  | marked | stillMarked | unmarked | stillUnmarked => cases noMark

theorem responses_eq (effect : Effect before change after) (mark : change.isMark = true) :
    after.responses = before.responses := by
  cases effect with
  | stored answers => cases mark.symm.trans (Change.isMark_of_answer? answers)
  | removed | unread => cases mark
  | marked | stillMarked | unmarked | stillUnmarked => rfl

theorem responseTo_eq (effect : Effect before change after)
    (answers : change.answer? before.settings = some (fieldId, response)) :
    responseTo after.responses fieldId = response := by
  cases effect with
  | stored stored =>
    cases answers.symm.trans stored
    simp [responseTo, Dict.get?_insert]
  | unread noAnswer => cases answers.symm.trans noAnswer
  | removed | marked | stillMarked | unmarked | stillUnmarked => cases answers

theorem nodup_skipped (effect : Effect before change after) (distinct : before.skipped.Nodup) :
    after.skipped.Nodup := by
  cases effect with
  | stored | removed | unread | stillMarked | stillUnmarked => exact distinct
  | marked fresh => exact List.nodup_cons.mpr ⟨fresh, distinct⟩
  | unmarked => exact distinct.filter _

end Effect

/-- How many rows are counted for a field depends on its own response. -/
theorem get?_rowCounts_congr {schema : FormSchema} {responses others : Responses}
    (same : responseTo responses fieldId = responseTo others fieldId) :
    (Reference.rowCounts schema responses).get? fieldId =
      (Reference.rowCounts schema others).get? fieldId := by
  have sameRows : liveRows responses fieldId = liveRows others fieldId := by
    rw [liveRows, liveRows, same]
  have listed (held : Responses) : Reference.rowCounts schema held =
      .ofList ((schema.tables.map fun table => (table.id, ())).map fun entry =>
        (entry.1, (liveRows held entry.1).length)) := by
    rw [rowCounts_eq, List.map_map]
    rfl
  rw [listed, listed, Dict.get?_ofList_map fun id _ => (liveRows responses id).length,
    Dict.get?_ofList_map fun id _ => (liveRows others id).length, sameRows]

/-- What changes of other fields leave alone. -/
structure Keeps (fieldId : String) (before after : Session) : Prop where
  settings : after.settings = before.settings
  schema : after.schema = before.schema
  response : responseTo after.responses fieldId = responseTo before.responses fieldId
  skipped : fieldId ∈ after.skipped ↔ fieldId ∈ before.skipped

theorem Effect.keeps (effect : Effect before change after)
    (others : change.fieldId? before.settings ≠ some fieldId) : Keeps fieldId before after := by
  refine ⟨effect.settings_eq, effect.schema_eq, ?_, ?_⟩
  · cases effect with
    | stored answers =>
      have apart : fieldId ≠ _ := fun same => others (same ▸ Change.fieldId?_of_answer? answers)
      rw [responseTo, Dict.get?_insert, if_neg apart, responseTo]
    | removed =>
      have apart : fieldId ≠ _ := fun same => others (same ▸ rfl)
      rw [responseTo, Dict.get?_erase, if_neg apart, responseTo]
    | unread | marked | stillMarked | unmarked | stillUnmarked => rfl
  · cases effect with
    | stored | removed | unread | stillMarked | stillUnmarked => exact Iff.rfl
    | marked | unmarked =>
      have apart : fieldId ≠ _ := fun same => others (same ▸ rfl)
      simp [apart]

namespace Keeps

theorem refl (fieldId : String) (session : Session) : Keeps fieldId session session :=
  ⟨rfl, rfl, rfl, Iff.rfl⟩

theorem trans {middle : Session} (first : Keeps fieldId before middle)
    (second : Keeps fieldId middle after) : Keeps fieldId before after where
  settings := second.settings.trans first.settings
  schema := second.schema.trans first.schema
  response := second.response.trans first.response
  skipped := second.skipped.trans first.skipped

theorem issuesOf_eq (keeps : Keeps field.id before after)
    (distinct : (before.schema.fields.map (·.id)).Nodup) (member : field ∈ before.schema.fields) :
    issuesOf field.id after.issues = issuesOf field.id before.issues := by
  rw [issues, keeps.schema, issuesOf_validateForm distinct member, keeps.response, issues,
    issuesOf_validateForm distinct member]

theorem progress_eq (keeps : Keeps field.id before after)
    (distinct : (before.schema.fields.map (·.id)).Nodup) (member : field ∈ before.schema.fields) :
    after.summary.fields.get? field.id = before.summary.fields.get? field.id := by
  have sameFlag : after.skipped.contains field.id = before.skipped.contains field.id := by
    rw [Bool.eq_iff_iff, List.contains_iff_mem, List.contains_iff_mem, keeps.skipped]
  rw [summary, issues, keeps.schema, get?_summarise_validateForm distinct member, keeps.response,
    sameFlag, summary, issues, get?_summarise_validateForm distinct member]

theorem rowCounts_eq (keeps : Keeps fieldId before after) :
    after.rowCounts.get? fieldId = before.rowCounts.get? fieldId := by
  rw [rowCounts, keeps.schema]
  exact get?_rowCounts_congr keeps.response

end Keeps

/-- What holds at the start and outlasts each effect holds after the run. -/
theorem run_induction {motive : Session → Prop} (start : motive session)
    (step : ∀ before, motive before → ∀ change ∈ changes, ∀ after, Effect before change after →
      motive after) : motive (session.run changes) :=
  List.foldlRecOn changes apply start fun before held change member =>
    step before held change member _ (effect_apply before change)

theorem settings_run (session : Session) (changes : List Change) :
    (session.run changes).settings = session.settings :=
  run_induction (motive := fun after => after.settings = session.settings) rfl
    fun _ same _ _ _ effect => effect.settings_eq.trans same

/-- A form does not change while it is being filled in. -/
theorem schema_run (session : Session) (changes : List Change) :
    (session.run changes).schema = session.schema :=
  run_induction (motive := fun after => after.schema = session.schema) rfl
    fun _ same _ _ _ effect => effect.schema_eq.trans same

theorem keeps_run
    (others : ∀ change ∈ changes, change.fieldId? session.settings ≠ some fieldId) :
    Keeps fieldId session (session.run changes) := by
  refine run_induction (.refl fieldId session) fun before keeps change member after effect => ?_
  refine keeps.trans (effect.keeps ?_)
  rw [keeps.settings]
  exact others change member

theorem skipped_run (answers : ∀ change ∈ changes, change.isMark = false) :
    (session.run changes).skipped = session.skipped :=
  run_induction (motive := fun after => after.skipped = session.skipped) rfl
    fun _ same change member _ effect => (effect.skipped_eq (answers change member)).trans same

theorem responses_run (marks : ∀ change ∈ changes, change.isMark = true) :
    (session.run changes).responses = session.responses :=
  run_induction (motive := fun after => after.responses = session.responses) rfl
    fun _ same change member _ effect => (effect.responses_eq (marks change member)).trans same

/-- No field is ever marked twice. -/
theorem nodup_skipped_run (settings : Settings) (form : ParsedForm) (changes : List Change) :
    ((ofForm settings form).run changes).skipped.Nodup :=
  run_induction (motive := fun after => after.skipped.Nodup) List.nodup_nil
    fun _ distinct _ _ _ effect => effect.nodup_skipped distinct

/-- Whatever is done with other fields, the issues with a field stay the same, and so does its
progress. -/
theorem untouched_run (distinct : (session.schema.fields.map (·.id)).Nodup)
    (member : field ∈ session.schema.fields)
    (others : ∀ change ∈ changes, change.fieldId? session.settings ≠ some field.id) :
    let after := session.run changes
    responseTo after.responses field.id = responseTo session.responses field.id ∧
      issuesOf field.id after.issues = issuesOf field.id session.issues ∧
      after.summary.fields.get? field.id = session.summary.fields.get? field.id ∧
      after.rowCounts.get? field.id = session.rowCounts.get? field.id := by
  have keeps : Keeps field.id session (session.run changes) := keeps_run others
  exact ⟨keeps.response, keeps.issuesOf_eq distinct member, keeps.progress_eq distinct member,
    keeps.rowCounts_eq⟩

theorem distinct_fields_run {root : Node} {form : ParsedForm}
    (read : parseForm settings root = .ok form) (changes : List Change) :
    (((ofForm settings form).run changes).schema.fields.map (·.id)).Nodup := by
  rw [schema_run]
  exact distinct_fields_of_parseForm read

theorem run_append (session : Session) (first second : List Change) :
    session.run (first ++ second) = (session.run first).run second :=
  List.foldl_append

/-- The last answer counts, whatever was done before it and with other fields since. -/
theorem last_answer_run {earlier later : List Change}
    (distinct : (session.schema.fields.map (·.id)).Nodup) (member : field ∈ session.schema.fields)
    (answers : change.answer? session.settings = some (field.id, response))
    (others : ∀ change ∈ later, change.fieldId? session.settings ≠ some field.id) :
    let after := session.run (earlier ++ change :: later)
    responseTo after.responses field.id = response ∧
      issuesOf field.id after.issues = validateField field response := by
  intro after
  let given := (session.run earlier).apply change
  have effect : Effect (session.run earlier) change given := effect_apply _ change
  have settings : given.settings = session.settings :=
    effect.settings_eq.trans (settings_run session earlier)
  have schema : given.schema = session.schema := effect.schema_eq.trans (schema_run session earlier)
  have whole : after = given.run later := run_append session earlier _
  have keeps : Keeps field.id given after := by
    rw [whole]
    exact keeps_run (by rwa [settings])
  have held : responseTo after.responses field.id = response := by
    rw [← settings_run session earlier] at answers
    exact keeps.response.trans (effect.responseTo_eq answers)
  refine ⟨held, ?_⟩
  rw [issues, keeps.schema, schema, issuesOf_validateForm distinct member, held]

/-- Marks leave the answers and all that is said of them alone; they change only how many fields
stand where. -/
theorem marks_run (marks : ∀ change ∈ changes, change.isMark = true) :
    let after := session.run changes
    after.issues = session.issues ∧ after.rowCounts = session.rowCounts ∧
      session.summary.counts.AgreeOnWork after.summary.counts := by
  intro after
  have sameResponses : after.responses = session.responses := responses_run marks
  have sameIssues : after.issues = session.issues := by
    rw [issues, schema_run, sameResponses, issues]
  refine ⟨sameIssues, by rw [rowCounts, schema_run, sameResponses, rowCounts], ?_⟩
  rw [summary, summary, sameIssues, schema_run, sameResponses]
  exact agreeOnWork_summarise

/-- Fields that are skipped one after the other differ from before as if all had been marked at
once. -/
theorem differsInSkips_run (distinct : (session.schema.fields.map (·.id)).Nodup)
    (skips : ∀ change ∈ changes, ∃ fieldId, change = .skip fieldId) :
    let after := session.run changes
    DiffersInSkips session.schema session.skipped after.skipped session.summary after.summary := by
  have marks : ∀ change ∈ changes, change.isMark = true := by
    intro change member
    obtain ⟨fieldId, rfl⟩ := skips change member
    rfl
  have within : session.skipped ⊆ (session.run changes).skipped := by
    refine run_induction (motive := fun after => session.skipped ⊆ after.skipped)
      (List.Subset.refl _) fun before within change member after effect => ?_
    obtain ⟨fieldId, rfl⟩ := skips change member
    cases effect with
    | stored answers => cases answers
    | marked => exact List.Subset.trans within (List.subset_cons_self _ _)
    | stillMarked => exact within
  have sameResponses : (session.run changes).responses = session.responses := responses_run marks
  intro after
  rw [summary, summary, issues, issues, schema_run, sameResponses]
  exact .of_subset session.responses _ distinct within

theorem skip_tells (session : Session) (fieldId : String) :
    (session.skip fieldId).1 = true ↔ (session.skip fieldId).2 ≠ session := by
  by_cases marked : fieldId ∈ session.skipped
  · simp [skip, marked]
  · have longer : { session with skipped := fieldId :: session.skipped } ≠ session :=
      fun same => List.cons_ne_self _ _ (congrArg Session.skipped same)
    simp [skip, marked, longer]

theorem unskip_tells (session : Session) (fieldId : String) :
    (session.unskip fieldId).1 = true ↔ (session.unskip fieldId).2 ≠ session := by
  by_cases marked : fieldId ∈ session.skipped
  · have shorter : { session with skipped := session.skipped.filter (· ≠ fieldId) } ≠ session := by
      intro same
      have kept := List.filter_eq_self.mp (congrArg Session.skipped same) fieldId marked
      simp at kept
    simpa [unskip, marked] using shorter
  · simp [unskip, marked]

theorem remove_tells (session : Session) (fieldId : String) :
    (session.remove fieldId).1 = true ↔ (session.remove fieldId).2 ≠ session := by
  rw [remove, ← Bool.not_eq_false, ← Dict.erase_eq_self_iff, not_iff_not]
  constructor
  · intro same
    rw [same]
  · exact congrArg Session.responses

/-- A mark that is taken back leaves no trace. -/
theorem unskip_skip (fresh : fieldId ∉ session.skipped) :
    ((session.skip fieldId).2.unskip fieldId).2 = session := by
  have others : (fieldId :: session.skipped).filter (· ≠ fieldId) = session.skipped := by
    rw [List.filter_cons_of_neg (by simp), List.filter_eq_self]
    exact fun other member => by simpa using fun same : other = fieldId => fresh (same ▸ member)
  simp only [skip, List.contains_iff_mem, fresh, if_false, unskip, List.mem_cons_self, if_true,
    others]

end DocForm.Session
