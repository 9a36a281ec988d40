import DocForm.Proofs.Field.Lifecycle
import DocForm.Proofs.Table.Declared

/-! What the defaults of a reader change in reading a field. Main statement: two readings that are
equally strict fail with one error or give one field, but for the role and the priority that its tag
leaves open. -/

namespace DocForm

/-- Two readings fail with one error, or give results that are related. -/
inductive Alike {ε α : Type} (related : α → α → Prop) : Except ε α → Except ε α → Prop where
  | failed (error : ε) : Alike related (.error error) (.error error)
  | read {one other : α} (same : related one other) : Alike related (.ok one) (.ok other)

namespace Alike

variable {ε α β γ : Type} {related : α → α → Prop} {results : β → β → Prop}

theorem cases {one other : Except ε α} (alike : Alike related one other) :
    (∃ error, one = .error error ∧ other = .error error) ∨
      ∃ result otherResult, one = .ok result ∧ other = .ok otherResult ∧
        related result otherResult := by
  cases alike with
  | failed error => exact .inl ⟨error, rfl, rfl⟩
  | read same => exact .inr ⟨_, _, rfl, rfl, same⟩

theorem bind {one other : Except ε α} {next otherNext : α → Except ε β}
    (first : Alike related one other)
    (rest : ∀ found otherFound, related found otherFound →
      Alike results (next found) (otherNext otherFound)) :
    Alike results (one >>= next) (other >>= otherNext) := by
  cases first with
  | failed error => exact .failed error
  | read same => exact rest _ _ same

/-- Two readings that begin with one and the same step. -/
theorem bind_same {outcome : Except ε α} {next otherNext : α → Except ε β}
    (rest : ∀ found, outcome = .ok found → Alike results (next found) (otherNext found)) :
    Alike results (outcome >>= next) (outcome >>= otherNext) := by
  cases outcome with
  | error error => exact .failed error
  | ok found => exact rest found rfl

/-- Step by step, related states lead to related states. -/
theorem foldlM {step otherStep : β → γ → Except ε β} {items : List γ}
    (each : ∀ item ∈ items, ∀ state otherState, results state otherState →
      Alike results (step state item) (otherStep otherState item))
    {start otherStart : β} (same : results start otherStart) :
    Alike results (items.foldlM step start) (items.foldlM otherStep otherStart) := by
  induction items generalizing start otherStart with
  | nil => exact .read same
  | cons item rest ih =>
    rw [List.foldlM_cons, List.foldlM_cons]
    refine (each item (List.mem_cons_self ..) start otherStart same).bind ?_
    exact fun state otherState same =>
      ih (fun other member => each other (List.mem_cons_of_mem _ member)) same

end Alike

/-- Two values that come from one attribute of a tag, or are two defaults in its place. -/
inductive Node.Fills {α : Type} (node : Node) (name : String) (default otherDefault : α) :
    α → α → Prop where
  | written (present : node.hasAttribute name = true) (value : α) :
      Fills node name default otherDefault value value
  | left (absent : node.hasAttribute name = false) :
      Fills node name default otherDefault default otherDefault

/-- Two declarations from one tag are the same, but for a role and a priority that it leaves open. -/
structure FieldDefinition.SameBut (first second : Settings) (node : Node)
    (one other : FieldDefinition) : Prop where
  named : node.text? "id" = some one.id
  rest : { one with role := other.role, priority := other.priority } = other
  role : node.Fills "role" first.role second.role one.role other.role
  priority : node.Fills "priority" first.priority second.priority one.priority other.priority

/-- Two fields from one tag have one response and the same remarks, and their declarations are the
same but for what the tag leaves open. -/
structure ParsedField.SameBut (first second : Settings) (node : Node) (one other : ParsedField) :
    Prop where
  definition : one.definition.SameBut first second node other.definition
  response : one.response = other.response
  warnings : one.warnings = other.warnings

namespace FieldDefinition.SameBut

variable {first second : Settings} {node : Node} {one other : FieldDefinition}

theorem id_eq (same : one.SameBut first second node other) : one.id = other.id := by
  rw [← same.rest]

theorem line_eq (same : one.SameBut first second node other) : one.line = other.line := by
  rw [← same.rest]

end FieldDefinition.SameBut

namespace Heading

variable {first second : Settings} (heading : Heading)

theorem fills_of_read {α : Type} {heading : Heading} {name : String}
    {accepts : AttributeValue → Option α} {found : Option α}
    (read : heading.read name accepts = .ok found) (default otherDefault : α) :
    heading.node.Fills name default otherDefault (found.getD default)
      (found.getD otherDefault) := by
  rcases read_eq_ok.mp read with ⟨absent, rfl⟩ | ⟨value, result, present, _, rfl⟩
  · exact .left (hasAttribute_eq_false_iff.mpr absent)
  · exact .written (Option.isSome_iff_exists.mpr ⟨value, present⟩) result

/-- Of the settings only strictness matters to what a kind takes from a tag. -/
theorem entry_eq_of_strict (sameStrict : first.strict = second.strict) :
    heading.entry first = heading.entry second := by
  simp only [Heading.entry, readString, readNumber, readList, readUrl, readDate, readYear,
    sameStrict]

theorem definition_alike (named : heading.node.text? "id" = some heading.id) (entry : Entry) :
    Alike (FieldDefinition.SameBut first second heading.node) (heading.definition first entry)
      (heading.definition second entry) := by
  refine Alike.bind_same fun priority readPriority => Alike.bind_same fun role readRole => .read ?_
  exact {
    named
    rest := rfl
    role := fills_of_read readRole _ _
    priority := fills_of_read readPriority _ _ }

theorem finish_alike (named : heading.node.text? "id" = some heading.id) (entry : Entry) :
    Alike (ParsedField.SameBut first second heading.node) (heading.finish first entry)
      (heading.finish second entry) := by
  refine (heading.definition_alike named entry).bind fun one other same => ?_
  refine Alike.bind_same fun state _ => ?_
  cases entry.settle state with
  | error fault => exact .failed _
  | ok response => exact .read ⟨same, rfl, rfl⟩

end Heading

/-- Equally strict readings of a field tag differ in the defaults only. -/
theorem readField_alike {first second : Settings} (sameStrict : first.strict = second.strict)
    (node : Node) (kind : FieldKind) :
    Alike (ParsedField.SameBut first second node) (readField first node kind)
      (readField second node kind) := by
  refine Alike.bind_same fun heading headed => ?_
  obtain ⟨rfl, _, named, _⟩ := Heading.ofNode_eq_ok headed
  rw [heading.entry_eq_of_strict sameStrict]
  exact Alike.bind_same fun entry _ => heading.finish_alike named entry

end DocForm
