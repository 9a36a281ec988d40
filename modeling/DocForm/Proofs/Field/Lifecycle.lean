import DocForm.Proofs.Field.Answer

/-! How a field tag settles into a response: by its sentinel, else by its `state` attribute and
whether it holds an answer. Main statement: a field that can be read has settled so, and a tag
that settles in no such way is refused. -/

namespace DocForm

namespace Node

/-- A field holds no answer. -/
def isUnfilled (kind : FieldKind) (node : Node) : Bool :=
  (node.answer kind).isEmpty (some node.checkboxMode)

/-- The `state` attribute is absent. -/
def Stateless (node : Node) : Prop := node.attribute? "state" = none

/-- The `state` attribute is a given text. -/
def InState (node : Node) (state : String) : Prop :=
  node.attribute? "state" = some (.text state)

end Node

/-- The responses that a field tag can settle into. -/
inductive Settles (node : Node) (kind : FieldKind) : FieldResponse → Prop where
  | sentinel {sentinel : Sentinel} (found : node.sentinel? kind = some sentinel)
      (agrees : node.Stateless ∨ node.InState sentinel.kind.state.name)
      (allowed : sentinel.kind = .skip → node.isRequired kind = false) :
      Settles node kind sentinel.response
  | answered (bare : node.sentinel? kind = none) (filled : node.isUnfilled kind = false)
      (agrees : node.Stateless ∨ node.InState "answered") :
      Settles node kind (.answered (node.answer kind))
  | unanswered (bare : node.sentinel? kind = none)
      (agrees : node.InState "empty" ∨ (node.Stateless ∧ node.isUnfilled kind = true)) :
      Settles node kind .unanswered
  | skipped (bare : node.sentinel? kind = none) (unfilled : node.isUnfilled kind = true)
      (stated : node.InState "skipped") (optional : node.isRequired kind = false) :
      Settles node kind (.skipped none)
  | aborted (bare : node.sentinel? kind = none) (unfilled : node.isUnfilled kind = true)
      (stated : node.InState "aborted") :
      Settles node kind (.aborted none)

variable {node : Node} {kind : FieldKind} {settings : Settings}

theorem kind_of_checkboxMode? {constraints : Constraints} {mode : CheckboxMode}
    (found : constraints.checkboxMode? = some mode) : constraints.kind = .checkboxes := by
  cases constraints with
  | checkboxes limits => rfl
  | _ => cases found

/-- Only checkboxes are told empty by their mode. -/
theorem isEmpty_of_kind_ne {value : FieldValue} (notCheckboxes : value.kind ≠ .checkboxes)
    (mode other : Option CheckboxMode) : value.isEmpty mode = value.isEmpty other := by
  cases value with
  | checkboxes values => exact absurd rfl notCheckboxes
  | _ => rfl

namespace Entry.TakenFrom

variable {entry : Entry} {state : Option String} {response : FieldResponse}

/-- Whoever has to answer every option has to fill in the field. -/
theorem required_of_explicit (taken : entry.TakenFrom node kind)
    (explicit : entry.constraints.checkboxMode? = some .explicit) : entry.required = true := by
  have checkboxes : kind = .checkboxes := by
    rw [← taken.sameKind, kind_of_checkboxMode? explicit]
  rw [taken.required, Node.isRequired, ← taken.mode _ explicit]
  simp [checkboxes]

theorem isEmpty (taken : entry.TakenFrom node kind) (bare : node.sentinel? kind = none) :
    entry.isEmpty = node.isUnfilled kind := by
  rw [Entry.isEmpty, taken.value bare, Node.isUnfilled]
  by_cases checkboxes : kind = .checkboxes
  · have sameKind := taken.sameKind
    have mode := taken.mode
    cases limits : entry.constraints with
    | checkboxes limits' =>
      rw [limits] at mode
      exact congrArg (fun mode => (node.answer kind).isEmpty (some mode)) (mode _ rfl)
    | _ => simp [limits, Constraints.kind, ← sameKind] at checkboxes
  · exact isEmpty_of_kind_ne (by simpa using checkboxes) _ _

theorem settles_of_settleSentinel (taken : entry.TakenFrom node kind)
    (stated : node.attribute? "state" = state.map .text) {sentinel : Sentinel}
    (found : node.sentinel? kind = some sentinel)
    (settled : entry.settleSentinel state sentinel = .ok response) :
    Settles node kind response := by
  unfold Entry.settleSentinel at settled
  cases other : state.filter (· ≠ sentinel.kind.state.name) with
  | some clash => simp only [other, reduceCtorEq] at settled
  | none =>
    simp only [other, ite_eq_ok, reduceCtorEq, and_false, false_or, Except.ok.injEq] at settled
    obtain ⟨allowed, rfl⟩ := settled
    refine .sentinel found ?_ ?_
    · cases state with
      | none => exact .inl stated
      | some state =>
        have same : state = sentinel.kind.state.name := by simpa using other
        rw [same] at stated
        exact .inr stated
    · intro skips
      rw [← taken.required]
      simpa [skips] using allowed

theorem settles_of_settleValue (taken : entry.TakenFrom node kind)
    (stated : node.attribute? "state" = state.map .text) (bare : node.sentinel? kind = none)
    (settled : entry.settleValue state = .ok response) : Settles node kind response := by
  have sameEmpty := taken.isEmpty bare
  have sameValue := taken.value bare
  have sameRequired := taken.required
  unfold Entry.settleValue at settled
  split at settled
  · cases unfilled : node.isUnfilled kind with
    | true =>
      simp only [sameEmpty, unfilled, if_true, Except.ok.injEq] at settled
      rw [← settled]
      exact .unanswered bare (.inr ⟨stated, unfilled⟩)
    | false =>
      simp only [sameEmpty, unfilled, Bool.false_eq_true, if_false, sameValue,
        Except.ok.injEq] at settled
      rw [← settled]
      exact .answered bare unfilled (.inl stated)
  · cases settled
    exact .unanswered bare (.inl stated)
  · simp only [ite_eq_ok, reduceCtorEq, and_false, false_or, Except.ok.injEq, sameEmpty,
      sameValue] at settled
    obtain ⟨filled, rfl⟩ := settled
    exact .answered bare (by simpa using filled) (.inr stated)
  · simp only [ite_eq_ok, reduceCtorEq, and_false, false_or, Except.ok.injEq, sameEmpty,
      sameRequired] at settled
    obtain ⟨unfilled, optional, rfl⟩ := settled
    exact .skipped bare (by simpa using unfilled) stated (by simpa using optional)
  · simp only [ite_eq_ok, reduceCtorEq, and_false, false_or, Except.ok.injEq,
      sameEmpty] at settled
    obtain ⟨unfilled, rfl⟩ := settled
    exact .aborted bare (by simpa using unfilled) stated
  · cases settled

theorem settles (taken : entry.TakenFrom node kind)
    (stated : node.attribute? "state" = state.map .text)
    (settled : entry.settle state = .ok response) : Settles node kind response := by
  have content : entry.content.bind Sentinel.parse? = node.sentinel? kind := by
    rw [taken.content]
    rfl
  rw [Entry.settle, content] at settled
  cases found : node.sentinel? kind with
  | some sentinel =>
    rw [found] at settled
    exact taken.settles_of_settleSentinel stated found settled
  | none =>
    rw [found] at settled
    exact taken.settles_of_settleValue stated found settled

end Entry.TakenFrom

namespace Heading

variable {heading : Heading} {entry : Entry}

theorem definition_eq_ok {definition : FieldDefinition}
    (read : heading.definition settings entry = .ok definition) :
    definition.id = heading.id ∧ definition.required = entry.required ∧
      definition.constraints = entry.constraints ∧ definition.line = heading.line := by
  simp only [Heading.definition, bind_eq_ok] at read
  obtain ⟨_, _, _, _, same⟩ := read
  cases pure_eq_ok.mp same
  exact ⟨rfl, rfl, rfl, rfl⟩

theorem finish_eq_ok {parsed : ParsedField} (read : heading.finish settings entry = .ok parsed) :
    ∃ state, heading.definition settings entry = .ok parsed.definition ∧
      heading.text "state" = .ok state ∧ entry.settle state = .ok parsed.response ∧
      parsed.warnings = entry.remarks.map fun message => ⟨heading.id, message, heading.line⟩ := by
  simp only [finish, bind_eq_ok] at read
  obtain ⟨definition, defined, state, stated, read⟩ := read
  split at read
  · exact absurd read refuse_ne_ok
  · rename_i response settled
    cases pure_eq_ok.mp read
    exact ⟨state, defined, stated, settled, rfl⟩

end Heading

/-- A field that can be read has the entry of its kind, and has settled. -/
theorem readField_eq_ok {parsed : ParsedField} (read : readField settings node kind = .ok parsed) :
    ∃ heading entry, Heading.ofNode node kind = .ok heading ∧
      heading.entry settings = .ok entry ∧ Entry.TakenFrom node kind entry ∧
      parsed.definition.id = heading.id ∧ parsed.definition.required = entry.required ∧
      parsed.definition.constraints = entry.constraints ∧ Settles node kind parsed.response := by
  simp only [readField, bind_eq_ok] at read
  obtain ⟨heading, headed, entry, entered, finished⟩ := read
  obtain ⟨sameNode, sameKind, named, _, _⟩ := Heading.ofNode_eq_ok headed
  obtain ⟨state, defined, stated, settled, _⟩ := Heading.finish_eq_ok finished
  obtain ⟨sameId, required, constraints, _⟩ := Heading.definition_eq_ok defined
  have taken := Heading.takenFrom_of_entry (by rw [sameNode, named]) entered
  rw [sameNode, sameKind] at taken
  have written := Heading.attribute?_of_text stated
  rw [sameNode] at written
  exact ⟨heading, entry, headed, entered, taken, sameId, required, constraints,
    taken.settles written settled⟩

theorem isIdentifier_of_readField {parsed : ParsedField}
    (read : readField settings node kind = .ok parsed) :
    isIdentifier parsed.definition.id = true := by
  obtain ⟨heading, _, headed, _, _, sameId, _⟩ := readField_eq_ok read
  obtain ⟨_, _, _, identifier, _⟩ := Heading.ofNode_eq_ok headed
  rwa [sameId]

theorem kind_of_readField {parsed : ParsedField}
    (read : readField settings node kind = .ok parsed) : parsed.definition.kind = kind := by
  obtain ⟨_, _, _, _, taken, _, _, constraints, _⟩ := readField_eq_ok read
  rw [FieldDefinition.kind, constraints, taken.sameKind]

/-- The id and the line of a field are those of its tag. -/
theorem id_and_line_of_readField {parsed : ParsedField}
    (read : readField settings node kind = .ok parsed) :
    node.text? "id" = some parsed.definition.id ∧ parsed.definition.line = node.line? := by
  simp only [readField, bind_eq_ok] at read
  obtain ⟨heading, headed, entry, _, finished⟩ := read
  obtain ⟨sameNode, _, named, _, _⟩ := Heading.ofNode_eq_ok headed
  obtain ⟨_, defined, _, _, _⟩ := Heading.finish_eq_ok finished
  obtain ⟨sameId, _, _, sameLine⟩ := Heading.definition_eq_ok defined
  exact ⟨by rw [sameId, named], by rw [sameLine, Heading.line, sameNode]⟩

/-- A field has settled as its sentinel says, or else as its state and its value do. -/
structure Settled (node : Node) (kind : FieldKind) (parsed : ParsedField) : Prop where
  required : parsed.definition.required = node.isRequired kind
  sentinel : ∀ sentinel, node.sentinel? kind = some sentinel →
    parsed.response = sentinel.response ∧
      (node.Stateless ∨ node.InState sentinel.kind.state.name)
  answered : node.sentinel? kind = none → ∀ value, parsed.response = .answered value ↔
    value = node.answer kind ∧ node.isUnfilled kind = false ∧
      (node.Stateless ∨ node.InState "answered")
  unanswered : node.sentinel? kind = none → (parsed.response = .unanswered ↔
    node.InState "empty" ∨ (node.Stateless ∧ node.isUnfilled kind = true))
  skipped : node.sentinel? kind = none → ∀ reason, parsed.response = .skipped reason ↔
    reason = none ∧ node.InState "skipped" ∧ node.isUnfilled kind = true
  aborted : node.sentinel? kind = none → ∀ reason, parsed.response = .aborted reason ↔
    reason = none ∧ node.InState "aborted" ∧ node.isUnfilled kind = true
  /-- What has to be filled in is never skipped. -/
  neverSkipped : parsed.definition.required = true → ∀ reason, parsed.response ≠ .skipped reason
  explicit : parsed.definition.checkboxMode? = some .explicit → parsed.definition.required = true

namespace Settles

variable {response : FieldResponse}

theorem response_eq (settled : Settles node kind response) {sentinel : Sentinel}
    (found : node.sentinel? kind = some sentinel) :
    response = sentinel.response ∧ (node.Stateless ∨ node.InState sentinel.kind.state.name) := by
  cases settled with
  | sentinel held agrees allowed =>
    cases held.symm.trans found
    exact ⟨rfl, agrees⟩
  | answered bare | unanswered bare | skipped bare | aborted bare =>
    simp [bare] at found

theorem answered_iff (settled : Settles node kind response) (bare : node.sentinel? kind = none)
    (value : FieldValue) : response = .answered value ↔
      value = node.answer kind ∧ node.isUnfilled kind = false ∧
        (node.Stateless ∨ node.InState "answered") := by
  cases settled with
  | sentinel found => simp [bare] at found
  | answered _ filled agrees => simp [filled, agrees, eq_comm]
  | unanswered _ agrees =>
    rcases agrees with stated | ⟨absent, unfilled⟩
    · simp_all [Node.InState, Node.Stateless]
    · simp [unfilled]
  | skipped _ unfilled => simp [unfilled]
  | aborted _ unfilled => simp [unfilled]

theorem unanswered_iff (settled : Settles node kind response) (bare : node.sentinel? kind = none) :
    response = .unanswered ↔
      node.InState "empty" ∨ (node.Stateless ∧ node.isUnfilled kind = true) := by
  cases settled with
  | sentinel found => simp [bare] at found
  | answered _ filled agrees =>
    rcases agrees with absent | stated
    · simp_all [Node.InState, Node.Stateless]
    · simp_all [Node.InState]
  | unanswered _ agrees => simp [agrees]
  | skipped _ _ stated | aborted _ _ stated => simp_all [Node.InState, Node.Stateless]

theorem skipped_iff (settled : Settles node kind response) (bare : node.sentinel? kind = none)
    (reason : Option String) : response = .skipped reason ↔
      reason = none ∧ node.InState "skipped" ∧ node.isUnfilled kind = true := by
  cases settled with
  | sentinel found => simp [bare] at found
  | answered _ filled => simp [filled]
  | unanswered _ agrees =>
    rcases agrees with stated | ⟨absent, _⟩
    · simp_all [Node.InState]
    · simp_all [Node.InState, Node.Stateless]
  | skipped _ unfilled stated => simp [unfilled, stated, eq_comm]
  | aborted _ _ stated => simp_all [Node.InState]

theorem aborted_iff (settled : Settles node kind response) (bare : node.sentinel? kind = none)
    (reason : Option String) : response = .aborted reason ↔
      reason = none ∧ node.InState "aborted" ∧ node.isUnfilled kind = true := by
  cases settled with
  | sentinel found => simp [bare] at found
  | answered _ filled => simp [filled]
  | unanswered _ agrees =>
    rcases agrees with stated | ⟨absent, _⟩
    · simp_all [Node.InState]
    · simp_all [Node.InState, Node.Stateless]
  | skipped _ _ stated => simp_all [Node.InState]
  | aborted _ unfilled stated => simp [unfilled, stated, eq_comm]

theorem optional_of_skipped {reason : Option String}
    (settled : Settles node kind (.skipped reason)) : node.isRequired kind = false := by
  generalize same : Response.skipped reason = response at settled
  cases settled with
  | @sentinel held _ _ allowed =>
    apply allowed
    cases held with
    | mk kind reason =>
      cases kind with
      | skip => rfl
      | abort => simp [Sentinel.response] at same
  | skipped _ _ _ optional => exact optional
  | answered | unanswered | aborted => cases same

end Settles

theorem readField_of_parseField {parsed : ParsedField} (known : node.fieldKind? = some kind)
    (read : parseField settings node = .ok (some parsed)) :
    readField settings node kind = .ok parsed := by
  rw [parseField, known] at read
  obtain ⟨found, readTag, same⟩ := bind_eq_ok.mp read
  cases pure_eq_ok.mp same
  exact readTag

theorem parseField_of_readField {parsed : ParsedField} (known : node.fieldKind? = some kind)
    (read : readField settings node kind = .ok parsed) :
    parseField settings node = .ok (some parsed) := by
  rw [parseField, known]
  exact bind_eq_ok.mpr ⟨parsed, read, rfl⟩

/-- A field tag that cannot be read is refused. -/
theorem exists_error_of_unreadable (known : node.fieldKind? = some kind)
    (unreadable : ∀ parsed, readField settings node kind ≠ .ok parsed) :
    ∃ error, parseField settings node = .error error := by
  rw [parseField, known]
  cases read : readField settings node kind with
  | error error => exact ⟨error, bind_eq_error.mpr (.inl read)⟩
  | ok parsed => exact absurd read (unreadable parsed)

theorem exists_readField_of_parseField {parsed : ParsedField}
    (read : parseField settings node = .ok (some parsed)) :
    ∃ kind, node.fieldKind? = some kind ∧ readField settings node kind = .ok parsed := by
  cases known : node.fieldKind? with
  | none => simp [parseField, known] at read
  | some kind => exact ⟨kind, rfl, readField_of_parseField known read⟩

/-- A field tag that can be read has settled by its sentinel, or by its state and its value. One
that settles in no way is refused. -/
theorem settled_of_parseField (known : node.fieldKind? = some kind) :
    (∀ parsed, parseField settings node = .ok (some parsed) → Settled node kind parsed) ∧
      ((¬ ∃ response, Settles node kind response) →
        ∃ error, parseField settings node = .error error) := by
  constructor
  · intro parsed read
    obtain ⟨heading, entry, _, _, taken, _, required, constraints, settled⟩ :=
      readField_eq_ok (readField_of_parseField known read)
    have sameRequired : parsed.definition.required = node.isRequired kind := by
      rw [required, taken.required]
    exact {
      required := sameRequired
      sentinel := fun _ found => settled.response_eq found
      answered := settled.answered_iff
      unanswered := settled.unanswered_iff
      skipped := settled.skipped_iff
      aborted := settled.aborted_iff
      neverSkipped := fun needed reason skips => by
        rw [skips] at settled
        simp [sameRequired, settled.optional_of_skipped] at needed
      explicit := fun explicit => by
        rw [FieldDefinition.checkboxMode?, constraints] at explicit
        rw [required, taken.required_of_explicit explicit] }
  · intro stuck
    cases read : parseField settings node with
    | error error => exact ⟨error, rfl⟩
    | ok outcome =>
      rw [parseField, known] at read
      obtain ⟨parsed, readTag, _⟩ := bind_eq_ok.mp read
      obtain ⟨_, _, _, _, _, _, _, _, settled⟩ := readField_eq_ok readTag
      exact absurd ⟨_, settled⟩ stuck

/-- Two decisions, one of them taken; such a field counts as required without saying so. -/
def decisions : Node where
  type := "tag"
  tag := some "checkboxes"
  attributes := .ofList [("id", .text "decisions"), ("label", .text "Decisions"),
    ("checkboxMode", .text "explicit"), ("state", .text "answered")]
  children := [⟨"item", none, .ofList [("id", .text "publish")],
      [⟨"text", none, .ofList [("content", .text "[y] Publish")], [], []⟩], [2]⟩,
    ⟨"item", none, .ofList [("id", .text "archive")],
      [⟨"text", none, .ofList [("content", .text "[ ] Archive")], [], []⟩], [3]⟩]
  lines := [1]

/-- The same decisions, skipped. -/
def skippedDecisions : Node :=
  { decisions with
    attributes := decisions.attributes.insert "state" (.text "skipped"), children := [] }

theorem settled_decisions :
    (∃ parsed, parseField .standard decisions = .ok (some parsed) ∧
        Settled decisions .checkboxes parsed) ∧
      ∃ error, parseField .standard skippedDecisions = .error error := by
  constructor
  · have readable : ((parseField .standard decisions).toOption.bind id).isSome = true := by
      decide +kernel
    obtain ⟨parsed, found⟩ := Option.isSome_iff_exists.mp readable
    obtain ⟨outcome, read, rfl⟩ := Option.bind_eq_some_iff.mp found
    have read := toOption_eq_some.mp read
    exact ⟨parsed, read, (settled_of_parseField (by decide)).1 parsed read⟩
  · have known : skippedDecisions.fieldKind? = some .checkboxes := by decide
    refine (settled_of_parseField known).2 ?_
    rintro ⟨response, settled⟩
    have stated : skippedDecisions.attribute? "state" = some (.text "skipped") := by rfl
    have bare : skippedDecisions.sentinel? .checkboxes = none := by decide
    have required : skippedDecisions.isRequired .checkboxes = true := by decide
    have unfilled : skippedDecisions.isUnfilled .checkboxes = true := by decide
    cases settled <;> simp_all [Node.InState, Node.Stateless]

end DocForm
