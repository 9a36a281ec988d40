import DocForm.Form.Parse
import DocForm.Proofs.Field.Strict
import DocForm.Proofs.Form.Origin

/-! What strictness changes in reading a form. Main statement: a strict reading gives the form or
the error of the lenient one, unless it refuses a placeholder. -/

namespace DocForm

variable (settings : Settings)

theorem Draft.step_tightens (draft : Draft) (landmark : Landmark) :
    Tightens (draft.step { settings with strict := true } landmark)
      (draft.step { settings with strict := false } landmark) := by
  cases landmark with
  | group node nested => exact .refl _
  | field node kind grouped =>
    exact Tightens.bind (readField_tightens settings node kind) fun parsed => .refl _

theorem readForm_tightens (tag : Node) : Tightens (readForm { settings with strict := true } tag)
    (readForm { settings with strict := false } tag) := by
  unfold readForm
  dsimp only
  cases tag.text? "id" with
  | none => exact .refl _
  | some id =>
    dsimp only
    split
    · exact .refl _
    · have taken := Tightens.foldlM (Draft.step_tightens settings) tag.formLandmarks .empty
      exact taken.bind fun draft => .refl _

theorem parseForm_tightens (root : Node) :
    Tightens (parseForm { settings with strict := true } root)
      (parseForm { settings with strict := false } root) := by
  unfold parseForm
  cases root.form? with
  | none => exact .refl _
  | some tag => exact readForm_tightens settings tag

/-- Strictness only rejects more: what is read strictly is read leniently as the same form, what
fails leniently fails strictly, and any strict error but about a placeholder is the lenient one. -/
theorem strict_rejects_placeholders (settings : Settings) (root : Node) :
    let strict := parseForm { settings with strict := true } root
    let lenient := parseForm { settings with strict := false } root
    (∀ form, strict = .ok form → lenient = .ok form) ∧
      (∀ error, lenient = .error error → ∃ refusal, strict = .error refusal) ∧
      ∀ error, strict = .error error →
        (∀ text kind, error.fault ≠ .invalidPlaceholder text kind) → lenient = .error error := by
  intro strict lenient
  have tightens : Tightens strict lenient := parseForm_tightens settings root
  refine ⟨fun form => tightens.lenient_eq_ok, fun error => tightens.exists_strict_eq_error, ?_⟩
  intro error failed other
  apply tightens.lenient_eq_error failed
  rintro ⟨text, kind, placeholder⟩
  exact other text kind placeholder

/-- A form that asks for a number and shows a word in its place. -/
def copyOrder : Node :=
  .sampleTag "form" "order" 1 [] [.sampleTag "number-field" "copies" 2
    [("label", .text "Copies"), ("placeholder", .text "many")] []]

/-- Only the strict reading fails, so it is the placeholder that it refuses. -/
theorem refused_copyOrder :
    ∃ error, parseForm { Settings.standard with strict := true } copyOrder = .error error ∧
      ∃ text kind, error.fault = .invalidPlaceholder text kind := by
  have failed : (parseForm { Settings.standard with strict := true } copyOrder).toOption = none := by
    decide +kernel
  have readable :
      (parseForm { Settings.standard with strict := false } copyOrder).toOption.isSome = true := by
    decide +kernel
  cases strict : parseForm { Settings.standard with strict := true } copyOrder with
  | ok form =>
    rw [strict] at failed
    cases failed
  | error error =>
    refine ⟨error, rfl, ?_⟩
    by_contra other
    push Not at other
    have lenient := (strict_rejects_placeholders .standard copyOrder).2.2 error strict other
    rw [lenient] at readable
    cases readable

end DocForm
