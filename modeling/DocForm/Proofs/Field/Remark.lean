import DocForm.Proofs.Field.Lifecycle

/-! What a strict reading of a field still remarks on. Main statement: it remarks on content that
is misread, and on nothing else, since a doubtful placeholder is an error. -/

namespace DocForm

/-- Content that is passed over: a text that is no value of its kind and no sentinel, or all but the
first of several options. -/
def Node.IsMisread (node : Node) : FieldKind → Prop
  | .number => ∃ text, node.typedText? = some text ∧ parseNumber? text = none ∧
      Sentinel.parse? text = none
  | .year => ∃ text, node.typedText? = some text ∧ parseYear? text = none ∧
      Sentinel.parse? text = none
  | .singleSelect => 1 < node.crossedIds.length
  | .string | .stringList | .multiSelect | .checkboxes | .url | .urlList | .date | .table => False

namespace Heading

variable {heading : Heading} {settings : Settings} {entry : Entry}

/-- A strict reading leaves no remark on the hints. -/
theorem remarks_of_hints {valid : String → Bool} {hints : Hints} {remarks : List String}
    (read : heading.hints true valid = .ok (hints, remarks)) : remarks = [] := by
  simp only [Heading.hints, bind_eq_ok] at read
  obtain ⟨placeholder, _, examples, _, read⟩ := read
  split at read
  · exact absurd read refuse_ne_ok
  · split at read
    · cases read
      rfl
    · exact absurd read refuse_ne_ok

theorem notRead_eq_nil_iff {α : Type} {typed : Option String} {read : String → Option α}
    {noun : String} : notRead typed (typed.bind read) noun = [] ↔
      ¬ ∃ text, typed = some text ∧ read text = none ∧ Sentinel.parse? text = none := by
  cases typed with
  | none => simp [notRead]
  | some text => simp [notRead]

/-- A strict reading of a tag remarks exactly on content that is misread. -/
theorem remarks_eq_nil_iff (strict : settings.strict = true)
    (read : heading.entry settings = .ok entry) :
    entry.remarks = [] ↔ ¬ heading.node.IsMisread heading.kind := by
  cases same : heading.kind with
  | string =>
    rw [Heading.entry, same] at read
    -- What is doubtful about the hints has been refused, so they leave no remark.
    obtain ⟨_, _, _, _, _, _, _, _, _, hinted, rfl⟩ := readString_eq_ok read
    rw [strict] at hinted
    simp [remarks_of_hints hinted, Node.IsMisread]
  | number =>
    rw [Heading.entry, same] at read
    obtain ⟨_, _, _, _, _, _, _, _, _, _, _, hinted, rfl⟩ := readNumber_eq_ok read
    rw [strict] at hinted
    rw [remarks_of_hints hinted, List.nil_append]
    exact notRead_eq_nil_iff
  | stringList | urlList =>
    rw [Heading.entry, same] at read
    obtain ⟨_, _, _, _, _, _, _, _, _, _, _, _, hinted, rfl⟩ := readList_eq_ok read
    rw [strict] at hinted
    simp [remarks_of_hints hinted, Node.IsMisread]
  | singleSelect =>
    rw [Heading.entry, same] at read
    obtain ⟨_, _, _, _, _, rfl⟩ := readSingleSelect_eq_ok read
    simp [Node.IsMisread]
  | multiSelect =>
    rw [Heading.entry, same] at read
    obtain ⟨_, _, _, _, _, _, _, _, rfl⟩ := readMultiSelect_eq_ok read
    simp [Node.IsMisread]
  | checkboxes =>
    rw [Heading.entry, same] at read
    obtain ⟨_, _, _, _, _, _, _, _, _, _, _, _, rfl⟩ := readCheckboxes_eq_ok read
    simp [Node.IsMisread]
  | url =>
    rw [Heading.entry, same] at read
    obtain ⟨_, _, _, _, hinted, rfl⟩ := readUrl_eq_ok read
    rw [strict] at hinted
    simp [remarks_of_hints hinted, Node.IsMisread]
  | date =>
    rw [Heading.entry, same] at read
    obtain ⟨_, _, _, _, _, _, _, _, _, hinted, rfl⟩ := readDate_eq_ok read
    rw [strict] at hinted
    simp [remarks_of_hints hinted, Node.IsMisread]
  | year =>
    rw [Heading.entry, same] at read
    obtain ⟨_, _, _, _, _, _, _, _, _, hinted, rfl⟩ := readYear_eq_ok read
    rw [strict] at hinted
    rw [remarks_of_hints hinted, List.nil_append]
    exact notRead_eq_nil_iff
  | table =>
    rw [Heading.entry, same] at read
    obtain ⟨_, _, _, _, _, _, _, _, _, _, _, rfl⟩ := readTable_eq_ok read
    simp [Node.IsMisread]

end Heading

theorem warnings_of_readField {settings : Settings} {node : Node} {kind : FieldKind}
    {parsed : ParsedField} (strict : settings.strict = true)
    (read : readField settings node kind = .ok parsed) :
    parsed.warnings = [] ↔ ¬ node.IsMisread kind := by
  simp only [readField, bind_eq_ok] at read
  obtain ⟨heading, headed, entry, entered, finished⟩ := read
  obtain ⟨rfl, rfl, _⟩ := Heading.ofNode_eq_ok headed
  obtain ⟨_, _, _, _, warnings⟩ := Heading.finish_eq_ok finished
  rw [warnings, List.map_eq_nil_iff]
  exact Heading.remarks_eq_nil_iff strict entered

end DocForm
