import DocForm.Proofs.Field.Remark
import DocForm.Proofs.Form.Origin

/-! Warnings about a form. Main statement: a form that is read strictly has no warnings exactly when
nothing that its fields hold is misread. -/

namespace DocForm

variable {settings : Settings} {root : Node} {form : ParsedForm}

theorem Node.exists_landmark_of_mem_fieldTags {tag node : Node} (isForm : tag.isTag formTag = true)
    (member : node ∈ tag.fieldTags) : ∃ kind grouped, node.fieldKind? = some kind ∧
      .field node kind grouped ∈ tag.formLandmarks := by
  obtain ⟨visit, met, rfl⟩ := List.mem_map.mp member
  obtain ⟨met, field⟩ := List.mem_filter.mp met
  obtain ⟨isField, outside⟩ : visit.node.isFieldTag = true ∧ visit.inField = false := by
    simpa using field
  obtain ⟨kind, known⟩ := Option.isSome_iff_exists.mp isField
  refine ⟨kind, visit.inGroup, known, Node.mem_formLandmarks isForm met ?_⟩
  simp [Visit.landmark?, outside, Node.isGroupTag_of_isFieldTag isField, known]

/-- Every field tag of a form can be read, and the warnings are those about its fields. -/
theorem warnings_of_parseForm (read : parseForm settings root = .ok form) :
    ∃ tag, firstForm? root = some tag ∧
      (∀ node ∈ tag.fieldTags, ∃ kind parsed, node.fieldKind? = some kind ∧
        readField settings node kind = .ok parsed) ∧
      form.warnings = (tag.parsedFields settings).flatMap (·.warnings) := by
  obtain ⟨tag, found, isForm, _, _, run⟩ := run_of_parseForm read
  refine ⟨tag, found, fun node member => ?_, ?_⟩
  · obtain ⟨kind, grouped, known, landmark⟩ := Node.exists_landmark_of_mem_fieldTags isForm member
    obtain ⟨parsed, readTag⟩ := run.read landmark
    exact ⟨kind, parsed, known, readTag⟩
  · have remarks := run.warnings
    rwa [Node.filterMap_parsed?_formLandmarks isForm] at remarks

/-- With a strict reading there are no warnings exactly when no number or year is misread, and no
choice of one option has several crosses. -/
theorem warnings_eq_nil_iff (strict : settings.strict = true)
    (read : parseForm settings root = .ok form) :
    ∃ tag, firstForm? root = some tag ∧ (form.warnings = [] ↔
      ∀ node ∈ tag.fieldTags, ∀ kind, node.fieldKind? = some kind → ¬ node.IsMisread kind) := by
  obtain ⟨tag, found, readable, warnings⟩ := warnings_of_parseForm read
  refine ⟨tag, found, ?_⟩
  rw [warnings, List.flatMap_eq_nil_iff]
  constructor
  · intro silent node member kind known
    obtain ⟨other, parsed, sameKind, readTag⟩ := readable node member
    cases known.symm.trans sameKind
    apply (warnings_of_readField strict readTag).mp
    apply silent parsed
    exact List.mem_filterMap.mpr
      ⟨node, member, by rw [parsedField?_of_fieldKind? known, readTag]; rfl⟩
  · intro clear parsed member
    obtain ⟨node, present, found⟩ := List.mem_filterMap.mp member
    obtain ⟨kind, known, readTag⟩ := parsedField?_eq_some found
    exact (warnings_of_readField strict readTag).mpr (clear node present kind known)

/-- A form that asks for a number and holds a word instead. -/
def order : Node :=
  .sampleTag "form" "order" 1 []
    [.sampleTag "number-field" "copies" 2 [("label", .text "Copies")] [.sampleValue "three\n"]]

/-- A strict reading keeps the form and warns about the word. -/
theorem warned_order : ∃ form, parseForm { Settings.standard with strict := true } order = .ok form ∧
    form.warnings =
      [⟨"copies", "'three' is not a number, treating the field as empty", some 2⟩] := by
  have computed : (parseForm { Settings.standard with strict := true } order).toOption.map
      (·.warnings) =
        some [⟨"copies", "'three' is not a number, treating the field as empty", some 2⟩] := by
    decide +kernel
  obtain ⟨form, found, warnings⟩ := Option.map_eq_some_iff.mp computed
  exact ⟨form, toOption_eq_some.mp found, warnings⟩

/-- The warning comes from a field whose content is misread. -/
theorem misread_order : ∃ tag, firstForm? order = some tag ∧
    ∃ node ∈ tag.fieldTags, ∃ kind, node.fieldKind? = some kind ∧ node.IsMisread kind := by
  have computed : (parseForm { Settings.standard with strict := true } order).toOption.any
      (fun form => !form.warnings.isEmpty) = true := by
    decide +kernel
  obtain ⟨form, found, warned⟩ := (Option.any_eq_true _ _).mp computed
  obtain ⟨tag, isTag, silent_iff⟩ := warnings_eq_nil_iff rfl (toOption_eq_some.mp found)
  have notSilent : form.warnings ≠ [] := by simpa using warned
  refine ⟨tag, isTag, ?_⟩
  by_contra clear
  push Not at clear
  exact notSilent (silent_iff.mpr clear)

end DocForm
