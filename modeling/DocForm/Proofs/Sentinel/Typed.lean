import DocForm.Proofs.Field.Lifecycle
import DocForm.Proofs.Text.Trim
import DocForm.Proofs.Validation.Check

/-! Sentinels that are typed as answers. Main statement: of the texts that look like a sentinel, a
field without a `state` honours the canonical ones and the check warns of all others. -/

namespace DocForm

/-- The fields of the kind keep what is typed into them as it is, less the white space around it. -/
def FieldKind.keepsText : FieldKind → Bool
  | .string | .url | .date => true
  | _ => false

namespace Sentinel

theorem detect?_trim (text : String) : detect? (Text.trim text) = detect? text := by
  rw [detect?, Text.toList_trim, Text.trimmed_trimmed]
  rfl

/-- Nothing looks like a sentinel where nothing shows. -/
theorem detect?_of_trim?_eq_none {text : String} (blank : Text.trim? text = none) :
    detect? text = none := by
  have nothing : Text.trimmed text.toList = [] :=
    Text.trimmed_eq_nil_iff.mpr (Text.trim?_eq_none_iff.mp blank)
  rw [detect?, nothing]

theorem state_response {α : Type} (sentinel : Sentinel) :
    (sentinel.response (α := α)).state = .skipped ∨
      (sentinel.response (α := α)).state = .aborted := by
  obtain ⟨kind, reason⟩ := sentinel
  cases kind with
  | skip => exact .inl rfl
  | abort => exact .inr rfl

end Sentinel

theorem Text.eq_trim_of_trim? {text bare : String} (found : trim? text = some bare) :
    bare = trim text := by
  simp only [trim?, Option.ite_none_left_eq_some, Option.some.injEq] at found
  exact found.2.symm

namespace Node

variable {node : Node} {kind : FieldKind} {raw : String}

theorem sentinel?_of_keepsText (keeps : kind.keepsText = true) (written : node.fenceValue? = some raw) :
    node.sentinel? kind = Sentinel.parse? raw := by
  have noTable : kind ≠ .table := by
    rintro rfl
    cases keeps
  rw [sentinel?, written?, if_neg noTable, written, Option.bind_some]

theorem texts_answer_of_keepsText (keeps : kind.keepsText = true)
    (written : node.fenceValue? = some raw) :
    (node.answer kind).texts = (Text.trim? raw).toList := by
  have typed : node.typedText? = Text.trim? raw := by rw [typedText?, written, Option.bind_some]
  cases kind with
  | string | url | date => exact congrArg Option.toList typed
  | _ => cases keeps

theorem isUnfilled_of_keepsText (keeps : kind.keepsText = true)
    (written : node.fenceValue? = some raw) :
    node.isUnfilled kind = (Text.trim? raw).isNone := by
  have typed : node.typedText? = Text.trim? raw := by rw [typedText?, written, Option.bind_some]
  cases kind with
  | string | url | date => exact congrArg Option.isNone typed
  | _ => cases keeps

end Node

variable {node : Node} {kind : FieldKind} {settings : Settings} {parsed : ParsedField} {raw : String}

/-- What is typed into a field that has no sentinel is its answer, or shows nothing. -/
theorem response_of_typed (keeps : kind.keepsText = true) (stateless : node.Stateless)
    (written : node.fenceValue? = some raw) (bare : Sentinel.parse? raw = none)
    (read : readField settings node kind = .ok parsed) :
    (Text.trim? raw = none ∧ parsed.response = .unanswered) ∨
      (Text.trim? raw = some (Text.trim raw) ∧ parsed.response = .answered (node.answer kind)) := by
  obtain ⟨_, _, _, _, _, _, _, _, settled⟩ := readField_eq_ok read
  have noSentinel : node.sentinel? kind = none := by
    rw [Node.sentinel?_of_keepsText keeps written, bare]
  have unfilled := Node.isUnfilled_of_keepsText keeps written
  cases typed : Text.trim? raw with
  | none =>
    rw [typed] at unfilled
    exact .inl ⟨rfl, (settled.unanswered_iff noSentinel).mpr (.inr ⟨stateless, unfilled⟩)⟩
  | some text =>
    rw [typed] at unfilled
    rw [Text.eq_trim_of_trim? typed]
    exact .inr ⟨rfl, (settled.answered_iff noSentinel _).mpr ⟨rfl, unfilled, .inl stateless⟩⟩

theorem bypassed_iff_of_typed (keeps : kind.keepsText = true) (stateless : node.Stateless)
    (written : node.fenceValue? = some raw) (read : readField settings node kind = .ok parsed) :
    (parsed.response.state = .skipped ∨ parsed.response.state = .aborted) ↔
      (Sentinel.parse? raw).isSome = true := by
  cases found : Sentinel.parse? raw with
  | some sentinel =>
    obtain ⟨_, _, _, _, _, _, _, _, settled⟩ := readField_eq_ok read
    have held : node.sentinel? kind = some sentinel := by
      rw [Node.sentinel?_of_keepsText keeps written, found]
    rw [(settled.response_eq held).1]
    simp [sentinel.state_response]
  | none =>
    rcases response_of_typed keeps stateless written found read with ⟨_, given⟩ | ⟨_, given⟩
    · simp [given, Response.state]
    · simp [given, Response.state]

theorem code_of_warning {field : FieldDefinition} {response : FieldResponse} {issue : Issue}
    (member : issue ∈ validateField field response) (warns : issue.severity = .warning) :
    issue.code = .sentinelValue := by
  obtain ⟨_, _, _, _, _, remark⟩ := warning_mem_validateField_iff.mp ⟨member, warns⟩
  rw [(FieldDefinition.mem_checkSentinel_iff.mp remark).2]

/-- The check of a field without a sentinel warns exactly when one is seen in what is typed. -/
theorem exists_warning_iff_of_typed (keeps : kind.keepsText = true) (stateless : node.Stateless)
    (written : node.fenceValue? = some raw) (bare : Sentinel.parse? raw = none)
    (read : readField settings node kind = .ok parsed) :
    (∃ issue, issue ∈ validateField parsed.definition parsed.response ∧
      issue.severity = .warning) ↔ (Sentinel.detect? raw).isSome = true := by
  simp only [warning_mem_validateField_iff]
  rcases response_of_typed keeps stateless written bare read with ⟨blank, given⟩ | ⟨typed, given⟩
  · simp [given, Sentinel.detect?_of_trim?_eq_none blank]
  · have texts : (node.answer kind).texts = [Text.trim raw] := by
      rw [Node.texts_answer_of_keepsText keeps written, typed, Option.toList_some]
    have sameKind : (node.answer kind).kind = parsed.definition.kind := by
      rw [Node.kind_answer, kind_of_readField read]
    simp [given, sameKind, texts, FieldDefinition.mem_checkSentinel_iff, Sentinel.detect?_trim]

/-- No text that looks like a sentinel passes as an answer in silence: the field is skipped or
aborted when the sentinel is canonical, and the check warns when it is not. -/
theorem bypassed_or_warned_of_typed (known : node.fieldKind? = some kind)
    (keeps : kind.keepsText = true) (stateless : node.Stateless)
    (written : node.fenceValue? = some raw)
    (read : parseField settings node = .ok (some parsed)) :
    ((parsed.response.state = .skipped ∨ parsed.response.state = .aborted) ↔
        (Sentinel.parse? raw).isSome = true) ∧
      ((∃ issue ∈ validateField parsed.definition parsed.response,
          issue.code = .sentinelValue ∧ issue.severity = .warning) ↔
        (Sentinel.detect? raw).isSome = true ∧ Sentinel.parse? raw = none) := by
  have readTag := readField_of_parseField known read
  refine ⟨bypassed_iff_of_typed keeps stateless written readTag, ?_⟩
  constructor
  · rintro ⟨issue, member, _, warns⟩
    obtain ⟨value, answered, _⟩ := warning_mem_validateField_iff.mp ⟨member, warns⟩
    have bare : Sentinel.parse? raw = none := by
      have notBypassed := bypassed_iff_of_typed keeps stateless written readTag
      rw [answered] at notBypassed
      simpa [Response.state] using notBypassed
    exact ⟨(exists_warning_iff_of_typed keeps stateless written bare readTag).mp
      ⟨issue, member, warns⟩, bare⟩
  · rintro ⟨seen, bare⟩
    obtain ⟨issue, member, warns⟩ :=
      (exists_warning_iff_of_typed keeps stateless written bare readTag).mpr seen
    exact ⟨issue, member, code_of_warning member warns, warns⟩

/-- A day that somebody meant to skip, in small letters. -/
def departure : Node where
  type := "tag"
  tag := some "date-field"
  attributes := .ofList [("id", .text "departure"), ("label", .text "Departure")]
  children := [⟨"fence", none, .ofList [("language", .text "value"),
    ("content", .text " %skip% (not booked yet)\n")], [], [2]⟩]
  lines := [1]

theorem warned_departure :
    ∃ parsed, parseField .standard departure = .ok (some parsed) ∧
      ¬ (parsed.response.state = .skipped ∨ parsed.response.state = .aborted) ∧
      ∃ issue ∈ validateField parsed.definition parsed.response,
        issue.code = .sentinelValue ∧ issue.severity = .warning := by
  have readable : ((parseField .standard departure).toOption.bind id).isSome = true := by
    decide +kernel
  obtain ⟨parsed, found⟩ := Option.isSome_iff_exists.mp readable
  obtain ⟨outcome, read, rfl⟩ := Option.bind_eq_some_iff.mp found
  have read := toOption_eq_some.mp read
  have written : departure.fenceValue? = some " %skip% (not booked yet)" := by decide +kernel
  have bare : Sentinel.parse? " %skip% (not booked yet)" = none := by decide
  have seen : (Sentinel.detect? " %skip% (not booked yet)").isSome = true := by decide
  have known : departure.fieldKind? = some .date := by decide
  have stateless : departure.attribute? "state" = none := by decide
  obtain ⟨bypassed, warned⟩ := bypassed_or_warned_of_typed known rfl stateless written read
  refine ⟨parsed, read, ?_, warned.mpr ⟨seen, bare⟩⟩
  simp [bypassed, bare]

end DocForm
