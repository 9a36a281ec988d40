import DocForm.Proofs.Structure.Qualified
import Mathlib.Algebra.BigOperators.Group.Finset.Basic

/-! What the structure of a form counts and keeps. Main statement: in a parsed form every field,
option and column has an entry of its own, so the counts are the sizes of the tables. -/

namespace DocForm

variable {settings : Settings} {root : Node} {form : ParsedForm}

/-- Entries that count nothing add nothing. -/
theorem sum_filter_counted {α : Type} (entries : List (α × Nat)) :
    ((entries.filter fun entry => entry.2 ≠ 0).map (·.2)).sum = (entries.map (·.2)).sum := by
  induction entries with
  | nil => rfl
  | cons entry rest ih =>
    rw [List.filter_cons]
    split <;> simp_all

/-- What occurs among some distinct members is counted once. -/
theorem sum_tally {α : Type} [DecidableEq α] {members found : List α} (distinct : members.Nodup)
    (known : ∀ item ∈ found, item ∈ members) :
    ((tally members found).map (·.2)).sum = found.length := by
  have counted : ∑ item ∈ members.toFinset, (found : Multiset α).count item = found.length :=
    Multiset.sum_count_eq_card fun item member => List.mem_toFinset.mpr (known item member)
  simp only [Multiset.coe_count] at counted
  rw [tally, sum_filter_counted, List.map_map, ← counted, List.sum_toFinset _ distinct]
  rfl

/-- Every part of a form is counted, and has an entry of its own in the tables. -/
structure Structure.Tabulates (structured : Structure) (schema : FormSchema) : Prop where
  fieldCount : structured.fieldCount = schema.fields.length
  fieldKinds : structured.fieldKinds.size = structured.fieldCount
  fieldsByKind : (structured.fieldsByKind.map (·.2)).sum = structured.fieldCount
  optionCount : structured.optionCount = (schema.fields.map (·.options.length)).sum
  qualifiedOptions : structured.qualifiedOptions.size = structured.optionCount
  columnCount : structured.columnCount = (schema.fields.map (·.columns.length)).sum
  qualifiedColumns : structured.qualifiedColumns.size = structured.columnCount
  /-- No name is that of an option and of a column. -/
  apart : ∀ name, ¬ (structured.qualifiedOptions.contains name = true ∧
    structured.qualifiedColumns.contains name = true)

section Parsed

variable (read : parseForm settings root = .ok form)

include read

/-- Parts that differ within their fields differ by their qualified names. Identifiers hold no dot,
so a name tells both of its halves. -/
theorem nodup_qualifiedNames {ids : FieldDefinition → List String}
    (named : ∀ field ∈ form.schema.fields, WellNamed (ids field)) :
    (form.schema.fields.flatMap fun field => (ids field).map (qualifiedName field.id)).Nodup := by
  refine List.nodup_flatMap.mpr ⟨fun field member => ?_, ?_⟩
  · obtain ⟨valid, apart⟩ := named field member
    have identifier := isIdentifier_of_mem_fields read member
    refine apart.map_on fun id listed other otherListed same => ?_
    exact (qualifiedName_inj identifier (valid id listed) identifier (valid other otherListed)
      same).2
  · refine (List.pairwise_map.mp (distinct_fields_of_parseForm read)).imp_of_mem ?_
    intro field other member otherMember different name here there
    obtain ⟨id, listed, rfl⟩ := List.mem_map.mp here
    obtain ⟨otherId, otherListed, same⟩ := List.mem_map.mp there
    have sameField := (qualifiedName_inj (isIdentifier_of_mem_fields read otherMember)
      ((named other otherMember).1 otherId otherListed) (isIdentifier_of_mem_fields read member)
      ((named field member).1 id listed) same).1
    exact different sameField.symm

theorem nodup_optionNames :
    ((form.schema.fields.flatMap FieldDefinition.qualifiedOptions).map (·.1)).Nodup := by
  have names := nodup_qualifiedNames read fun _ member => (wellNamed_of_mem_fields read member).1
  simpa [List.map_flatMap, FieldDefinition.qualifiedOptions, Function.comp_def] using names

theorem nodup_columnNames :
    ((form.schema.fields.flatMap FieldDefinition.qualifiedColumns).map (·.1)).Nodup := by
  have names := nodup_qualifiedNames read fun _ member => (wellNamed_of_mem_fields read member).2
  simpa [List.map_flatMap, FieldDefinition.qualifiedColumns, Function.comp_def] using names

theorem nodup_fieldKinds :
    ((form.schema.fields.map fun field => (field.id, field.kind)).map (·.1)).Nodup := by
  simpa [Function.comp_def] using distinct_fields_of_parseForm read

/-- The structure of a parsed form counts each of its parts and has an entry for each. -/
theorem tabulates_of_parseForm : form.schema.summary.Tabulates form.schema where
  fieldCount := rfl
  fieldKinds := (Dict.size_ofList (nodup_fieldKinds read)).trans (List.length_map _)
  fieldsByKind := (sum_tally (by decide) fun kind _ => FieldKind.mem_all kind).trans
    (List.length_map _)
  optionCount := by
    simp [FormSchema.summary, List.length_flatMap, FieldDefinition.qualifiedOptions]
  qualifiedOptions := Dict.size_ofList (nodup_optionNames read)
  columnCount := by
    simp [FormSchema.summary, List.length_flatMap, FieldDefinition.qualifiedColumns]
  qualifiedColumns := Dict.size_ofList (nodup_columnNames read)
  apart := by
    rintro name ⟨option, column⟩
    obtain ⟨⟨_, kind⟩, listed, rfl⟩ := List.mem_map.mp (Dict.contains_ofList.mp option)
    obtain ⟨⟨_, type⟩, otherListed, rfl⟩ := List.mem_map.mp (Dict.contains_ofList.mp column)
    have same := (FormSchema.mem_qualifiedOptions.mp listed).unique read
      (FormSchema.mem_qualifiedColumns.mp otherListed)
    cases same

end Parsed

/-- A form with options that read alike once their fields are put before them, and with a table
that is told by its header. -/
def picnic : Node :=
  let option (id label : String) : Node := ⟨"item", none, .ofList [("id", .text id)],
    [⟨"text", none, .ofList [("content", .text label)], [], []⟩], []⟩
  let meal := Node.sampleTag "single-select" "meal" 2 [("label", .text "Meal")]
    [option "soup" "[ ] Soup", option "fish_main" "[x] Fish"]
  let fish := Node.sampleTag "multi-select" "meal_fish" 6 [("label", .text "Fish")]
    [option "main" "[x] Trout"]
  let guests := Node.sampleTag "table-field" "guests" 9 [("label", .text "Guests")]
    [.sampleValue "| Name | 2024 | E-Mail |\n|---|---|---|\n"]
  ⟨"document", none, .empty, [.sampleTag "form" "picnic" 1 [] [meal, fish, guests]], []⟩

theorem tabulates_picnic : ∃ form, parseForm .standard picnic = .ok form ∧
    form.schema.summary.qualifiedOptions.keys =
      ["meal.fish_main", "meal.soup", "meal_fish.main"] ∧
    form.schema.summary.qualifiedColumns.keys = ["guests.col1", "guests.e_mail", "guests.name"] ∧
    form.schema.summary.Tabulates form.schema := by
  have computed : (parseForm .standard picnic).toOption.any (fun form =>
      let structured := form.schema.summary
      structured.qualifiedOptions.keys = ["meal.fish_main", "meal.soup", "meal_fish.main"] &&
        structured.qualifiedColumns.keys =
          ["guests.col1", "guests.e_mail", "guests.name"]) = true := by
    decide +kernel
  obtain ⟨form, found, tested⟩ := (Option.any_eq_true _ _).mp computed
  have read := toOption_eq_some.mp found
  simp only [Bool.and_eq_true, decide_eq_true_eq] at tested
  exact ⟨form, read, tested.1, tested.2, tabulates_of_parseForm read⟩

end DocForm
