import DocForm.Proofs.Field.Consistent
import DocForm.Proofs.Reference.Grammar
import DocForm.Proofs.Reference.Resolution
import DocForm.Proofs.Validation.Address
import DocForm.Structure
import Mathlib.Data.Option.Basic

/-! Options and columns by their qualified names. Main statement: in a parsed form, a text looks up
an option or a column exactly when it reads and resolves as a reference to it. -/

namespace DocForm

variable {settings : Settings} {root : Node} {form : ParsedForm} {field : FieldDefinition}
  {id otherId : String}

namespace FieldDefinition

/-- What an id stands for within a field. -/
inductive HasPart (field : FieldDefinition) : String → Qualified → Prop where
  | option {option : FieldOption} (listed : option ∈ field.options) :
      HasPart field option.id (.option field.kind)
  | column {column : TableColumn} (listed : column ∈ field.columns) :
      HasPart field column.id (.column column.type)

theorem hasPart_option_iff {kind : FieldKind} :
    field.HasPart id (.option kind) ↔ field.kind = kind ∧ field.HasOption id := by
  constructor
  · rintro (listed | _)
    exact ⟨rfl, isChooser_of_mem_options listed, List.mem_map_of_mem listed⟩
  · rintro ⟨rfl, _, member⟩
    obtain ⟨option, listed, rfl⟩ := List.mem_map.mp member
    exact .option listed

theorem hasPart_column_iff {type : ColumnType} :
    field.HasPart id (.column type) ↔
      ∃ column ∈ field.columns, column.id = id ∧ column.type = type := by
  constructor
  · rintro (_ | listed)
    exact ⟨_, listed, rfl, rfl⟩
  · rintro ⟨column, listed, rfl, rfl⟩
    exact .column listed

/-- An id stands for one part only. -/
theorem HasPart.unique (columns : (field.columns.map (·.id)).Nodup) {part otherPart : Qualified}
    (first : field.HasPart id part) (second : field.HasPart id otherPart) : part = otherPart := by
  cases part with
  | option kind =>
    obtain ⟨rfl, chooser, _⟩ := hasPart_option_iff.mp first
    cases otherPart with
    | option => rw [(hasPart_option_iff.mp second).1]
    | column =>
      obtain ⟨column, listed, _⟩ := hasPart_column_iff.mp second
      cases chooser.symm.trans (isChooser_of_table (table_of_mem_columns listed))
  | column type =>
    obtain ⟨column, listed, same, rfl⟩ := hasPart_column_iff.mp first
    cases otherPart with
    | option =>
      obtain ⟨_, chooser, _⟩ := hasPart_option_iff.mp second
      cases chooser.symm.trans (isChooser_of_table (table_of_mem_columns listed))
    | column =>
      obtain ⟨otherColumn, otherListed, otherSame, rfl⟩ := hasPart_column_iff.mp second
      rw [List.inj_on_of_nodup_map columns listed otherListed (same.trans otherSame.symm)]

end FieldDefinition

namespace FormSchema

variable {schema : FormSchema} {name : String} {part : Qualified}

/-- What a qualified name stands for in a form. -/
def Names (schema : FormSchema) (name : String) (part : Qualified) : Prop :=
  ∃ field ∈ schema.fields, ∃ id, field.HasPart id part ∧ qualifiedName field.id id = name

theorem mem_qualifiedOptions {kind : FieldKind} :
    (name, kind) ∈ schema.fields.flatMap FieldDefinition.qualifiedOptions ↔
      schema.Names name (.option kind) := by
  constructor
  · intro entry
    obtain ⟨field, member, entry⟩ := List.mem_flatMap.mp entry
    obtain ⟨option, listed, same⟩ := List.mem_map.mp entry
    cases same
    exact ⟨field, member, option.id, .option listed, rfl⟩
  · rintro ⟨field, member, _, listed | _, rfl⟩
    exact List.mem_flatMap.mpr ⟨_, member, List.mem_map_of_mem listed⟩

theorem mem_qualifiedColumns {type : ColumnType} :
    (name, type) ∈ schema.fields.flatMap FieldDefinition.qualifiedColumns ↔
      schema.Names name (.column type) := by
  constructor
  · intro entry
    obtain ⟨field, member, entry⟩ := List.mem_flatMap.mp entry
    obtain ⟨column, listed, same⟩ := List.mem_map.mp entry
    cases same
    exact ⟨field, member, column.id, .column listed, rfl⟩
  · rintro ⟨field, member, _, _ | listed, rfl⟩
    exact List.mem_flatMap.mpr ⟨_, member, List.mem_map_of_mem listed⟩

theorem names_of_lookup? (found : schema.summary.lookup? name = some part) :
    schema.Names name part := by
  rcases (Option.orElse_eq_some _ _ _).mp found with option | ⟨_, column⟩
  · obtain ⟨kind, known, rfl⟩ := Option.map_eq_some_iff.mp option
    exact mem_qualifiedOptions.mp (Dict.mem_of_get?_ofList known)
  · obtain ⟨type, known, rfl⟩ := Option.map_eq_some_iff.mp column
    exact mem_qualifiedColumns.mp (Dict.mem_of_get?_ofList known)

/-- What has a name is looked up, unless something else of that name is. -/
theorem isSome_lookup?_of_names (named : schema.Names name part) :
    (schema.summary.lookup? name).isSome = true := by
  cases part with
  | option kind =>
    have known : (schema.summary.qualifiedOptions.get? name).isSome = true :=
      Dict.contains_ofList.mpr (List.mem_map_of_mem (mem_qualifiedOptions.mpr named))
    simp [Structure.lookup?, known]
  | column type =>
    have known : (schema.summary.qualifiedColumns.get? name).isSome = true :=
      Dict.contains_ofList.mpr (List.mem_map_of_mem (mem_qualifiedColumns.mpr named))
    simp [Structure.lookup?, known]

end FormSchema

/-- A qualified name reads back, so it tells which identifiers it is made of. -/
theorem qualifiedName_inj {fieldId otherFieldId : String}
    (fieldIdentifier : isIdentifier fieldId = true) (identifier : isIdentifier id = true)
    (otherFieldIdentifier : isIdentifier otherFieldId = true)
    (otherIdentifier : isIdentifier otherId = true)
    (same : qualifiedName fieldId id = qualifiedName otherFieldId otherId) :
    fieldId = otherFieldId ∧ id = otherId := by
  have reads := Reference.read_option fieldIdentifier identifier
  have otherReads := Reference.read_option otherFieldIdentifier otherIdentifier
  rw [qualifiedName, qualifiedName] at same
  rw [same, otherReads] at reads
  cases reads
  exact ⟨rfl, rfl⟩

section Parsed

variable (read : parseForm settings root = .ok form)

include read

/-- The options of a field are well named, and so are its columns. -/
theorem wellNamed_of_mem_fields (member : field ∈ form.schema.fields) :
    WellNamed (field.options.map (·.id)) ∧ WellNamed (field.columns.map (·.id)) := by
  obtain ⟨node, kind, warnings, _, readTag⟩ := readField_of_mem_fields read member
  obtain ⟨heading, entry, _, entered, _, _, _, constraints, _⟩ := readField_eq_ok readTag
  have consistent := Heading.consistent_of_entry entered
  rw [← constraints] at consistent
  have columns : field.constraints.columnIds = field.columns.map (·.id) := by
    rw [Constraints.columnIds, FieldDefinition.columns]
    cases field.constraints.table? <;> rfl
  exact ⟨consistent.options, columns ▸ consistent.columns⟩

theorem isIdentifier_of_hasPart (member : field ∈ form.schema.fields) {part : Qualified}
    (listed : field.HasPart id part) : isIdentifier id = true := by
  obtain ⟨options, columns⟩ := wellNamed_of_mem_fields read member
  cases listed with
  | option listed => exact options.1 _ (List.mem_map_of_mem listed)
  | column listed => exact columns.1 _ (List.mem_map_of_mem listed)

/-- In a parsed form a name stands for one part only. -/
theorem FormSchema.Names.unique {name : String} {part otherPart : Qualified}
    (first : form.schema.Names name part) (second : form.schema.Names name otherPart) :
    part = otherPart := by
  obtain ⟨field, member, id, listed, rfl⟩ := first
  obtain ⟨other, otherMember, otherId, otherListed, same⟩ := second
  obtain ⟨sameField, rfl⟩ := qualifiedName_inj
    (isIdentifier_of_mem_fields read otherMember) (isIdentifier_of_hasPart read otherMember otherListed)
    (isIdentifier_of_mem_fields read member) (isIdentifier_of_hasPart read member listed) same
  obtain rfl :=
    FormSchema.eq_of_id_eq (distinct_fields_of_parseForm read) member otherMember sameField
  exact listed.unique (wellNamed_of_mem_fields read member).2.2 otherListed

theorem lookup?_eq_some_iff {name : String} {part : Qualified} :
    form.schema.summary.lookup? name = some part ↔ form.schema.Names name part := by
  refine ⟨FormSchema.names_of_lookup?, fun named => ?_⟩
  obtain ⟨found, lookedUp⟩ :=
    Option.isSome_iff_exists.mp (FormSchema.isSome_lookup?_of_names named)
  rw [lookedUp, (FormSchema.names_of_lookup? lookedUp).unique read named]

end Parsed

namespace Reference

variable {schema : FormSchema} {reference target : Reference} {text : String}

/-- An option or a column is meant, no field and no cell. -/
def isPart : Reference → Bool
  | .option _ _ | .column _ _ => true
  | .field _ | .cell _ _ _ => false

theorem isPart_typedIn (schema : FormSchema) (reference : Reference) :
    (reference.typedIn schema).isPart = reference.isPart := by
  cases reference with
  | option => rw [typedIn]; split <;> rfl
  | field | column | cell => rfl

theorem withinRows_of_isPart {counts : Option RowCounts} (part : reference.isPart = true) :
    reference.WithinRows counts := by
  cases reference with
  | option | column => trivial
  | field | cell => cases part

/-- What spells a part is the text of that part. -/
theorem Spells.eq_render (spelled : Spells reference text) (part : reference.isPart = true) :
    text = reference.render := by
  cases spelled with
  | option => rfl
  | field | cell => cases part

/-- A part that is declared is what its own text resolves to. -/
theorem typedIn_untyped (part : target.isPart = true) (declared : schema.Declares target) :
    target.untyped.typedIn schema = target := by
  cases target with
  | option fieldId id =>
    obtain ⟨field, found, chooser, _⟩ := declared
    have noTable : field.kind ≠ .table := fun table => by
      cases chooser.symm.trans (FieldDefinition.isChooser_of_table table)
    simp [untyped, typedIn, found, noTable]
  | column fieldId id =>
    obtain ⟨field, found, table, _⟩ := declared
    simp [untyped, typedIn, found, table]
  | field | cell => cases part

/-- A text resolves to an option or a column exactly when it is the text of a declared one. -/
theorem resolves_iff_of_isPart (part : target.isPart = true)
    (named : schema.Declares target → target.IsNamed) :
    (parse text >>= resolve schema none) = .ok target ↔
      text = target.render ∧ schema.Declares target := by
  rw [bind_eq_ok]
  constructor
  · rintro ⟨reference, found, resolved⟩
    obtain ⟨rfl, declared, _⟩ := resolve_eq_ok_iff.mp resolved
    rw [isPart_typedIn] at part
    exact ⟨by rw [render_typedIn, (parse_eq_ok_iff.mp found).eq_render part], declared⟩
  · rintro ⟨rfl, declared⟩
    have noRow : target.HasWordRow := by
      cases target with
      | option | column => trivial
      | field | cell => cases part
    -- A column is written like an option and becomes a column again where it is resolved.
    refine ⟨target.untyped, by rw [parse, read_render (named declared) noRow], ?_⟩
    exact resolve_eq_ok_iff.mpr
      ⟨(typedIn_untyped part declared).symm, declared, withinRows_of_isPart part⟩

end Reference

section Parsed

variable (read : parseForm settings root = .ok form)

include read

theorem declares_option_iff (member : field ∈ form.schema.fields) :
    form.schema.Declares (.option field.id id) ↔ field.HasOption id := by
  simp [FormSchema.Declares, FormSchema.field?_of_mem (distinct_fields_of_parseForm read) member]

theorem declares_column_iff (member : field ∈ form.schema.fields) :
    form.schema.Declares (.column field.id id) ↔ field.HasColumn id := by
  simp [FormSchema.Declares, FormSchema.field?_of_mem (distinct_fields_of_parseForm read) member]

theorem resolves_option_iff (member : field ∈ form.schema.fields) {text : String} :
    (Reference.parse text >>= Reference.resolve form.schema none) = .ok (.option field.id id) ↔
      qualifiedName field.id id = text ∧ field.HasOption id := by
  rw [Reference.resolves_iff_of_isPart rfl, declares_option_iff read member, eq_comm]
  · rfl
  · intro declared
    have part := FieldDefinition.hasPart_option_iff.mpr
      ⟨rfl, (declares_option_iff read member).mp declared⟩
    exact ⟨isIdentifier_of_mem_fields read member, isIdentifier_of_hasPart read member part⟩

theorem resolves_column_iff (member : field ∈ form.schema.fields) {text : String} :
    (Reference.parse text >>= Reference.resolve form.schema none) = .ok (.column field.id id) ↔
      qualifiedName field.id id = text ∧ field.HasColumn id := by
  rw [Reference.resolves_iff_of_isPart rfl, declares_column_iff read member, eq_comm]
  · rfl
  · intro declared
    obtain ⟨column, listed, rfl⟩ := FieldDefinition.hasColumn_iff_exists.mp
      ((declares_column_iff read member).mp declared)
    exact ⟨isIdentifier_of_mem_fields read member,
      isIdentifier_of_hasPart read member (.column listed)⟩

theorem names_option_iff_resolves {text : String} {kind : FieldKind} :
    form.schema.Names text (.option kind) ↔ ∃ field ∈ form.schema.fields, field.kind = kind ∧
      ∃ id, (Reference.parse text >>= Reference.resolve form.schema none) =
        .ok (.option field.id id) := by
  refine exists_congr fun field => and_congr_right fun member => ?_
  simp only [FieldDefinition.hasPart_option_iff, resolves_option_iff read member]
  constructor
  · rintro ⟨id, ⟨same, option⟩, named⟩
    exact ⟨same, id, named, option⟩
  · rintro ⟨same, id, named, option⟩
    exact ⟨id, ⟨same, option⟩, named⟩

theorem names_column_iff_resolves {text : String} {type : ColumnType} :
    form.schema.Names text (.column type) ↔ ∃ field ∈ form.schema.fields,
      ∃ column ∈ field.columns, column.type = type ∧
        (Reference.parse text >>= Reference.resolve form.schema none) =
          .ok (.column field.id column.id) := by
  refine exists_congr fun field => and_congr_right fun member => ?_
  simp only [FieldDefinition.hasPart_column_iff, resolves_column_iff read member]
  constructor
  · rintro ⟨_, ⟨column, listed, rfl, typed⟩, named⟩
    exact ⟨column, listed, typed, named, FieldDefinition.hasColumn_iff_exists.mpr ⟨_, listed, rfl⟩⟩
  · rintro ⟨column, listed, typed, named, _⟩
    exact ⟨_, ⟨column, listed, rfl, typed⟩, named⟩

/-- A text names a part as soon as it resolves to an option or to a column. -/
theorem names_of_resolves {text : String} {target : Reference} (part : target.isPart = true)
    (resolved : (Reference.parse text >>= Reference.resolve form.schema none) = .ok target) :
    ∃ part, form.schema.Names text part := by
  obtain ⟨reference, _, resolves⟩ := bind_eq_ok.mp resolved
  obtain ⟨_, declared, _⟩ := Reference.resolve_eq_ok_iff.mp resolves
  have distinct := distinct_fields_of_parseForm read
  cases target with
  | option fieldId id =>
    obtain ⟨field, found, _⟩ := declared
    obtain ⟨member, rfl⟩ := (FormSchema.field?_eq_some_iff distinct).mp found
    exact ⟨_, (names_option_iff_resolves read).mpr ⟨field, member, rfl, id, resolved⟩⟩
  | column fieldId id =>
    obtain ⟨field, found, column⟩ := declared
    obtain ⟨member, rfl⟩ := (FormSchema.field?_eq_some_iff distinct).mp found
    obtain ⟨declared, listed, rfl⟩ := FieldDefinition.hasColumn_iff_exists.mp column
    exact ⟨_, (names_column_iff_resolves read).mpr ⟨field, member, declared, listed, rfl, resolved⟩⟩
  | field | cell => cases part

end Parsed

/-- Looking up a text by the qualified names of a form finds what it resolves to as a reference, if
that is an option or a column, and nothing else. -/
theorem lookup?_iff_resolves (read : parseForm settings root = .ok form) (text : String) :
    let found := form.schema.summary.lookup? text
    let outcome := Reference.parse text >>= Reference.resolve form.schema none
    (∀ kind, found = some (.option kind) ↔
        ∃ field ∈ form.schema.fields, field.kind = kind ∧
          ∃ id, outcome = .ok (.option field.id id)) ∧
      (∀ type, found = some (.column type) ↔
        ∃ field ∈ form.schema.fields, ∃ column ∈ field.columns, column.type = type ∧
          outcome = .ok (.column field.id column.id)) ∧
      (found = none ↔ ∀ fieldId id,
        outcome ≠ .ok (.option fieldId id) ∧ outcome ≠ .ok (.column fieldId id)) := by
  intro found outcome
  refine ⟨fun kind => ?_, fun type => ?_, ?_⟩
  · rw [lookup?_eq_some_iff read, names_option_iff_resolves read]
  · rw [lookup?_eq_some_iff read, names_column_iff_resolves read]
  · constructor
    · intro missing fieldId id
      have unnamed : ¬ ∃ part, form.schema.Names text part := by
        rintro ⟨part, named⟩
        cases missing.symm.trans ((lookup?_eq_some_iff read).mpr named)
      exact ⟨fun resolved => unnamed (names_of_resolves read rfl resolved),
        fun resolved => unnamed (names_of_resolves read rfl resolved)⟩
    · intro unresolved
      apply Option.eq_none_iff_forall_ne_some.mpr
      intro part lookedUp
      have named := (lookup?_eq_some_iff read).mp lookedUp
      cases part with
      | option kind =>
        obtain ⟨field, _, _, id, resolved⟩ := (names_option_iff_resolves read).mp named
        exact (unresolved field.id id).1 resolved
      | column type =>
        obtain ⟨field, _, column, _, _, resolved⟩ := (names_column_iff_resolves read).mp named
        exact (unresolved field.id column.id).2 resolved

/-- A form with a choice of two meals and a table of guests. -/
def dinner : Node :=
  let option (id label : String) : Node := ⟨"item", none, .ofList [("id", .text id)],
    [⟨"text", none, .ofList [("content", .text label)], [], []⟩], []⟩
  let meal := Node.sampleTag "single-select" "meal" 2 [("label", .text "Meal")]
    [option "soup" "[ ] Soup", option "fish" "[x] Fish"]
  let guests := Node.sampleTag "table-field" "guests" 6
    [("label", .text "Guests"), ("columnIds", .list [.text "name", .text "born"]),
      ("columnTypes", .list [.text "string", .text "year"])] []
  ⟨"document", none, .empty, [.sampleTag "form" "dinner" 1 [] [meal, guests]], []⟩

/-- A meal is an option and the year of birth a column, but a cell has no name of its own. -/
theorem lookup?_dinner : ∃ form, parseForm .standard dinner = .ok form ∧
    (∃ field ∈ form.schema.fields, field.kind = .singleSelect ∧
      ∃ id, (Reference.parse "meal.fish" >>= Reference.resolve form.schema none) =
        .ok (.option field.id id)) ∧
    (∃ field ∈ form.schema.fields, ∃ column ∈ field.columns, column.type = .year ∧
      (Reference.parse "guests.born" >>= Reference.resolve form.schema none) =
        .ok (.column field.id column.id)) ∧
    ∀ fieldId id, (Reference.parse "guests.born[0]" >>= Reference.resolve form.schema none) ≠
      .ok (.option fieldId id) ∧
        (Reference.parse "guests.born[0]" >>= Reference.resolve form.schema none) ≠
          .ok (.column fieldId id) := by
  have computed : (parseForm .standard dinner).toOption.any (fun form =>
      let lookup? := form.schema.summary.lookup?
      lookup? "meal.fish" = some (.option .singleSelect) &&
        lookup? "guests.born" = some (.column .year) && lookup? "guests.born[0]" = none) = true := by
    decide +kernel
  obtain ⟨form, found, tested⟩ := (Option.any_eq_true _ _).mp computed
  have read := toOption_eq_some.mp found
  simp only [Bool.and_eq_true, decide_eq_true_eq] at tested
  obtain ⟨⟨meal, born⟩, cell⟩ := tested
  exact ⟨form, read, ((lookup?_iff_resolves read "meal.fish").1 _).mp meal,
    ((lookup?_iff_resolves read "guests.born").2.1 _).mp born,
    (lookup?_iff_resolves read "guests.born[0]").2.2.mp cell⟩

end DocForm
