import DocForm.Proofs.Validation.Check

/-! Which field an issue belongs to. Main statement: the issues of a form that refer into a field
are those with its response. -/

namespace DocForm

/-- The issues that refer into a field, in their order. -/
def issuesOf (fieldId : String) (issues : List Issue) : List Issue :=
  issues.filter fun issue => issue.reference.fieldId == fieldId

variable {schema : FormSchema} {responses : Responses} {field : FieldDefinition}

theorem issuesOf_append (fieldId : String) (first second : List Issue) :
    issuesOf fieldId (first ++ second) = issuesOf fieldId first ++ issuesOf fieldId second :=
  List.filter_append ..

theorem issuesOf_validateField (response : FieldResponse) :
    issuesOf field.id (validateField field response) = validateField field response :=
  List.filter_eq_self.mpr fun _ member =>
    beq_iff_eq.mpr (finding_of_mem_validateField member).fieldId_eq

theorem issuesOf_eq_nil_of_apart {others : List FieldDefinition}
    (apart : ∀ other ∈ others, other.id ≠ field.id) (responses : Responses) :
    issuesOf field.id (others.flatMap fun other =>
      validateField other (responseTo responses other.id)) = [] := by
  apply List.filter_eq_nil_iff.mpr
  intro issue listed same
  obtain ⟨other, member, found⟩ := List.mem_flatMap.mp listed
  have owned := (finding_of_mem_validateField found).fieldId_eq
  exact apart other member (owned.symm.trans (beq_iff_eq.mp same))

/-- With distinct ids, the issues of a form that refer into a field are those with its response. -/
theorem issuesOf_validateForm (distinct : (schema.fields.map (·.id)).Nodup)
    (member : field ∈ schema.fields) (responses : Responses) :
    issuesOf field.id (validateForm schema responses) =
      validateField field (responseTo responses field.id) := by
  -- Of the issues before, with and after the field only those with it remain.
  obtain ⟨before, after, parts⟩ := List.append_of_mem member
  rw [parts] at distinct
  have apart : ∀ other ∈ before ++ after, other.id ≠ field.id := by
    have moved : (before ++ field :: after).Perm (field :: (before ++ after)) := List.perm_middle
    have fresh := (List.nodup_cons.mp ((moved.map (·.id)).nodup_iff.mp distinct)).1
    exact fun other present same => fresh (List.mem_map.mpr ⟨other, present, same⟩)
  have noneBefore := issuesOf_eq_nil_of_apart
    (fun other present => apart other (List.mem_append_left _ present)) responses
  have noneAfter := issuesOf_eq_nil_of_apart
    (fun other present => apart other (List.mem_append_right _ present)) responses
  rw [validateForm, parts, List.flatMap_append, List.flatMap_cons, issuesOf_append, issuesOf_append,
    noneBefore, noneAfter, issuesOf_validateField, List.nil_append, List.append_nil]

end DocForm
