import DocForm.Form.Parse
import DocForm.Proofs.Outcome
import DocForm.Proofs.Form.Walk

/-! How a draft grows. What one landmark does to a draft is said once, as a step; what a run
over many landmarks keeps or adds follows from it by induction. -/

namespace DocForm

/-- The field that a landmark adds, if it can be read. -/
def Landmark.parsed? (settings : Settings) : Landmark → Option ParsedField
  | .field node kind _ => (readField settings node kind).toOption
  | .group _ _ => none

/-- The id of the group that a landmark opens. -/
def Landmark.groupId? : Landmark → Option String
  | .group node _ => node.text? "id"
  | .field _ _ _ => none

namespace Draft

variable {settings : Settings} {draft next : Draft} {landmark : Landmark}
  {landmarks : List Landmark}

/-- All that one landmark can do to a draft. -/
inductive Step (settings : Settings) : Draft → Landmark → Draft → Prop where
  | group {draft : Draft} {node : Node} {id : String} (named : node.text? "id" = some id)
      (identifier : isIdentifier id = true) (fresh : draft.hasGroup id = false) :
      Step settings draft (.group node false)
        { draft with groups := draft.groups ++ [⟨some id, node.text? "title", []⟩] }
  | field {draft : Draft} {node : Node} {kind : FieldKind} {parsed : ParsedField}
      (grouped : Bool) (read : readField settings node kind = .ok parsed)
      (fresh : draft.field? parsed.definition.id = none) :
      Step settings draft (.field node kind grouped) {
        groups := if grouped then addToLast parsed.definition draft.groups
          else addToImplicit parsed.definition draft.groups
        responses := draft.responses.insert parsed.definition.id parsed.response
        warnings := draft.warnings ++ parsed.warnings }

theorem step_of_eq_ok (taken : draft.step settings landmark = .ok next) :
    Step settings draft landmark next := by
  cases landmark with
  | group node nested =>
    simp only [step, openGroup] at taken
    split at taken
    · cases taken
    · rename_i outer
      cases Bool.eq_false_iff.mpr outer
      cases named : node.text? "id" with
      | none => simp [named] at taken
      | some id =>
        simp only [named, ite_eq_ok, reduceCtorEq, and_false, false_or] at taken
        obtain ⟨identifier, fresh, same⟩ := taken
        cases same
        exact .group named (by simpa using identifier) (by simpa using fresh)
  | field node kind grouped =>
    obtain ⟨parsed, read, added⟩ := bind_eq_ok.mp taken
    simp only [addField] at added
    split at added
    · cases added
    · rename_i fresh
      cases added
      exact .field grouped read fresh

/-- Landmarks taken one after another. -/
inductive Run (settings : Settings) : Draft → List Landmark → Draft → Prop where
  | done {draft : Draft} : Run settings draft [] draft
  | more {draft middle next : Draft} {landmark : Landmark} {rest : List Landmark}
      (step : Step settings draft landmark middle) (others : Run settings middle rest next) :
      Run settings draft (landmark :: rest) next

theorem run_of_foldlM (taken : landmarks.foldlM (Draft.step settings) draft = .ok next) :
    Run settings draft landmarks next := by
  induction landmarks generalizing draft with
  | nil =>
    cases pure_eq_ok.mp taken
    exact .done
  | cons landmark rest ih =>
    rw [List.foldlM_cons] at taken
    obtain ⟨middle, first, others⟩ := bind_eq_ok.mp taken
    exact .more (step_of_eq_ok first) (ih others)

theorem Run.append {first second : List Landmark} (run : Run settings draft (first ++ second) next) :
    ∃ middle, Run settings draft first middle ∧ Run settings middle second next := by
  induction first generalizing draft with
  | nil => exact ⟨draft, .done, run⟩
  | cons landmark rest ih =>
    obtain _ | ⟨step, others⟩ := run
    obtain ⟨middle, start, finish⟩ := ih others
    exact ⟨middle, .more step start, finish⟩

/-- Every field that is met can be read. -/
theorem Run.read (run : Run settings draft landmarks next) {node : Node} {kind : FieldKind}
    {grouped : Bool} (member : .field node kind grouped ∈ landmarks) :
    ∃ parsed, readField settings node kind = .ok parsed := by
  induction run with
  | done => cases member
  | more step others ih =>
    rcases List.mem_cons.mp member with same | later
    · cases same
      cases step with
      | field grouped read fresh => exact ⟨_, read⟩
    · exact ih later

/-- Every group that is met has an id of its own and lies in no other group. -/
theorem Run.group_named (run : Run settings draft landmarks next) {node : Node} {nested : Bool}
    (member : .group node nested ∈ landmarks) :
    nested = false ∧ ∃ id, node.text? "id" = some id ∧ isIdentifier id = true := by
  induction run with
  | done => cases member
  | more step others ih =>
    rcases List.mem_cons.mp member with same | later
    · cases same
      cases step with
      | group named identifier fresh => exact ⟨rfl, _, named, identifier⟩
    · exact ih later

theorem Step.responses (step : Step settings draft landmark next) :
    next.responses = (landmark.parsed? settings).toList.foldl
      (fun known parsed => known.insert parsed.definition.id parsed.response) draft.responses := by
  cases step with
  | group => rfl
  | field grouped read fresh => simp [Landmark.parsed?, read, Except.toOption]

theorem Step.warnings (step : Step settings draft landmark next) :
    next.warnings = draft.warnings ++ (landmark.parsed? settings).toList.flatMap (·.warnings) := by
  cases step with
  | group => simp [Landmark.parsed?]
  | field grouped read fresh => simp [Landmark.parsed?, read, Except.toOption]

theorem filterMap_cons_toList {α β : Type} (f : α → Option β) (a : α) (l : List α) :
    (a :: l).filterMap f = (f a).toList ++ l.filterMap f := by
  rw [List.filterMap_cons]
  cases f a <;> rfl

theorem Run.responses (run : Run settings draft landmarks next) :
    next.responses = (landmarks.filterMap (Landmark.parsed? settings)).foldl
      (fun known parsed => known.insert parsed.definition.id parsed.response) draft.responses := by
  induction run with
  | done => rfl
  | more step others ih => rw [ih, step.responses, filterMap_cons_toList, List.foldl_append]

theorem Run.warnings (run : Run settings draft landmarks next) :
    next.warnings = draft.warnings ++
      (landmarks.filterMap (Landmark.parsed? settings)).flatMap (·.warnings) := by
  induction run with
  | done => simp
  | more step others ih =>
    rw [ih, step.warnings, filterMap_cons_toList, List.flatMap_append, List.append_assoc]

theorem addToLast_concat (field : FieldDefinition) (groups : List FieldGroup) (last : FieldGroup) :
    addToLast field (groups ++ [last]) = groups ++ [last.add field] := by
  induction groups with
  | nil => rfl
  | cons group rest ih =>
    cases rest with
    | nil => rfl
    | cons other more => exact congrArg (group :: ·) ih

/-- The group without an id is found behind groups that have one. -/
theorem addToImplicit_append {explicit : List FieldGroup}
    (named : ∀ group ∈ explicit, group.isImplicit = false) (field : FieldDefinition)
    (groups : List FieldGroup) :
    addToImplicit field (explicit ++ groups) = explicit ++ addToImplicit field groups := by
  induction explicit with
  | nil => rfl
  | cons group rest ih =>
    have here : group.isImplicit = false := named group (by simp)
    simp only [List.cons_append, addToImplicit, here, Bool.false_eq_true, ↓reduceIte]
    rw [ih fun other member => named other (List.mem_cons_of_mem _ member)]

theorem addToImplicit_ne_nil (field : FieldDefinition) (groups : List FieldGroup) :
    addToImplicit field groups ≠ [] := by
  cases groups with
  | nil => simp [addToImplicit]
  | cons group rest =>
    simp only [addToImplicit]
    split <;> simp

/-- Landmarks inside a group add their fields to the group opened last. -/
theorem Run.fill_last (run : Run settings draft landmarks next)
    (inside : ∀ landmark ∈ landmarks, landmark.inGroup = true) {groups : List FieldGroup}
    {last : FieldGroup} (opened : draft.groups = groups ++ [last]) :
    next.groups = groups ++ [{ last with
      fields := last.fields ++
        (landmarks.filterMap (Landmark.parsed? settings)).map (·.definition) }] := by
  induction run generalizing last with
  | done => simp [opened]
  | more step others ih =>
    have innermore := fun landmark member => inside landmark (List.mem_cons_of_mem _ member)
    have inner := inside _ (List.mem_cons_self ..)
    cases step with
    | group => cases inner
    | @field _ _ parsed _ read fresh =>
      cases inner
      have reopened := addToLast_concat parsed.definition groups last
      rw [← opened] at reopened
      rw [ih innermore reopened]
      simp [Landmark.parsed?, read, Except.toOption, FieldGroup.add]

theorem fields_addToLast (field : FieldDefinition) {groups : List FieldGroup}
    (opened : groups ≠ []) :
    ((addToLast field groups).flatMap (·.fields)).Perm (groups.flatMap (·.fields) ++ [field]) := by
  obtain ⟨before, last, rfl⟩ := groups.eq_nil_or_concat'.resolve_left opened
  rw [addToLast_concat]
  simp [FieldGroup.add]

theorem fields_addToImplicit (field : FieldDefinition) (groups : List FieldGroup) :
    ((addToImplicit field groups).flatMap (·.fields)).Perm
      (groups.flatMap (·.fields) ++ [field]) := by
  induction groups with
  | nil => simp [addToImplicit]
  | cons group rest ih =>
    simp only [addToImplicit]
    split
    · simp only [FieldGroup.add, List.flatMap_cons, List.append_assoc]
      exact List.perm_append_comm.append_left _
    · simpa [List.append_assoc] using ih.append_left group.fields

theorem ids_addToLast (field : FieldDefinition) (groups : List FieldGroup) :
    (addToLast field groups).filterMap (·.id) = groups.filterMap (·.id) := by
  rcases groups.eq_nil_or_concat' with rfl | ⟨before, last, rfl⟩
  · rfl
  · rw [addToLast_concat]
    simp [FieldGroup.add, List.filterMap_append, List.filterMap_cons]

theorem ids_addToImplicit (field : FieldDefinition) (groups : List FieldGroup) :
    (addToImplicit field groups).filterMap (·.id) = groups.filterMap (·.id) := by
  induction groups with
  | nil => rfl
  | cons group rest ih =>
    simp only [addToImplicit]
    split
    · simp [FieldGroup.add, List.filterMap_cons]
    · rw [List.filterMap_cons, List.filterMap_cons, ih]

/-- Landmarks that do not begin inside a group need no group to be open. -/
theorem opened_of_loose (loose : ∀ landmark ∈ landmarks.head?, landmark.inGroup = false) :
    ∀ landmark ∈ landmarks.head?, landmark.inGroup = true → draft.groups ≠ [] := by
  intro landmark member inside
  rw [loose landmark member] at inside
  cases inside

theorem Step.groups_ne_nil (step : Step settings draft landmark next)
    (opened : landmark.inGroup = true → draft.groups ≠ []) : next.groups ≠ [] := by
  cases step with
  | group => simp
  | field grouped read fresh =>
    cases grouped with
    | false => exact addToImplicit_ne_nil _ _
    | true =>
      obtain ⟨before, last, same⟩ := draft.groups.eq_nil_or_concat'.resolve_left (opened rfl)
      simp [same, addToLast_concat]

theorem Step.fields (step : Step settings draft landmark next)
    (opened : landmark.inGroup = true → draft.groups ≠ []) :
    next.fields.Perm
      (draft.fields ++ (landmark.parsed? settings).toList.map (·.definition)) := by
  cases step with
  | group => simp [Draft.fields, Landmark.parsed?]
  | field grouped read fresh =>
    simp only [Landmark.parsed?, read, Except.toOption, Option.toList, List.map_cons, List.map_nil]
    cases grouped with
    | false => exact fields_addToImplicit _ _
    | true => exact fields_addToLast _ (opened rfl)

/-- All fields that are read are in the draft, once each. -/
theorem Run.fields (run : Run settings draft landmarks next)
    (opened : ∀ landmark ∈ landmarks.head?, landmark.inGroup = true → draft.groups ≠ []) :
    next.fields.Perm
      (draft.fields ++ (landmarks.filterMap (Landmark.parsed? settings)).map (·.definition)) := by
  induction run with
  | done => simp
  | more step others ih =>
    have first := opened _ rfl
    have later := ih fun _ _ _ => step.groups_ne_nil first
    rw [filterMap_cons_toList, List.map_append, ← List.append_assoc]
    exact later.trans ((step.fields first).append_right _)

theorem not_mem_ids_of_field?_eq_none {id : String} (fresh : draft.field? id = none) :
    id ∉ draft.fields.map (·.id) := by
  intro member
  obtain ⟨field, present, same⟩ := List.mem_map.mp member
  have other := List.find?_eq_none.mp fresh field present
  simp [same] at other

theorem Step.distinct_fields (step : Step settings draft landmark next)
    (opened : landmark.inGroup = true → draft.groups ≠ [])
    (distinct : (draft.fields.map (·.id)).Nodup) : (next.fields.map (·.id)).Nodup := by
  have grown := ((step.fields opened).map (·.id)).nodup_iff
  cases step with
  | group => exact grown.mpr (by simpa [Landmark.parsed?] using distinct)
  | field grouped read fresh =>
    apply grown.mpr
    have absent := not_mem_ids_of_field?_eq_none fresh
    simp only [Landmark.parsed?, read, Except.toOption, Option.toList, List.map_append,
      List.map_cons, List.map_nil]
    refine List.nodup_append.mpr ⟨distinct, by simp, ?_⟩
    intro id present other single same
    rw [List.mem_singleton] at single
    exact absent (single ▸ same ▸ present)

/-- Ids of fields stay distinct. -/
theorem Run.distinct_fields (run : Run settings draft landmarks next)
    (opened : ∀ landmark ∈ landmarks.head?, landmark.inGroup = true → draft.groups ≠ [])
    (distinct : (draft.fields.map (·.id)).Nodup) : (next.fields.map (·.id)).Nodup := by
  induction run with
  | done => exact distinct
  | more step others ih =>
    have first := opened _ rfl
    exact ih (fun _ _ _ => step.groups_ne_nil first) (step.distinct_fields first distinct)

theorem hasGroup_iff {id : String} :
    draft.hasGroup id = true ↔ id ∈ draft.groups.filterMap (·.id) := by
  simp [hasGroup]

theorem Step.groupIds (step : Step settings draft landmark next) :
    next.groups.filterMap (·.id) =
      draft.groups.filterMap (·.id) ++ landmark.groupId?.toList := by
  cases step with
  | group named identifier fresh => simp [Landmark.groupId?, named]
  | field grouped read fresh =>
    rw [Landmark.groupId?, Option.toList_none, List.append_nil]
    cases grouped with
    | false => exact ids_addToImplicit _ _
    | true => exact ids_addToLast _ _

/-- The ids of groups are those that have been met. -/
theorem Run.groupIds (run : Run settings draft landmarks next) :
    next.groups.filterMap (·.id) =
      draft.groups.filterMap (·.id) ++ landmarks.filterMap Landmark.groupId? := by
  induction run with
  | done => simp
  | more step others ih => rw [ih, step.groupIds, filterMap_cons_toList, List.append_assoc]

theorem Step.distinct_groups (step : Step settings draft landmark next)
    (distinct : (draft.groups.filterMap (·.id)).Nodup) :
    (next.groups.filterMap (·.id)).Nodup := by
  rw [step.groupIds]
  cases step with
  | @group node id named identifier fresh =>
    have absent : id ∉ draft.groups.filterMap (·.id) := by
      rw [← hasGroup_iff, fresh]
      exact Bool.false_ne_true
    rw [Landmark.groupId?, named, Option.toList_some]
    refine List.nodup_append.mpr ⟨distinct, by simp, ?_⟩
    intro known present other single same
    rw [List.mem_singleton] at single
    exact absent (single ▸ same ▸ present)
  | field => simpa [Landmark.groupId?] using distinct

/-- Ids of groups stay distinct. -/
theorem Run.distinct_groups (run : Run settings draft landmarks next)
    (distinct : (draft.groups.filterMap (·.id)).Nodup) :
    (next.groups.filterMap (·.id)).Nodup := by
  induction run with
  | done => exact distinct
  | more step others ih => exact ih (step.distinct_groups distinct)

end Draft

end DocForm
