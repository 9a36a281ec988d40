import DocForm.Proofs.Field.WellFormed
import DocForm.Proofs.Reference.Grammar
import DocForm.Proofs.Reference.Resolution
import DocForm.Proofs.Validation.Address

/-! What written references point to in a parsed form. Main statement: a text reads and resolves
exactly when the form has, as it is filled in now, the part that the text spells. -/

namespace DocForm

variable {settings : Settings} {root : Node} {form : ParsedForm} {field : FieldDefinition}

/-- Only declared fields have a response. -/
theorem exists_field_of_answered (read : parseForm settings root = .ok form) {fieldId : String}
    {value : FieldValue} (answered : responseTo form.responses fieldId = .answered value) :
    ∃ field ∈ form.schema.fields, field.id = fieldId := by
  obtain ⟨tag, _, perm, stored⟩ := parsedFields_of_parseForm read
  cases found : form.responses.get? fieldId with
  | none => simp [responseTo, found] at answered
  | some response =>
    rw [stored] at found
    obtain ⟨parsed, present, same⟩ := List.mem_map.mp (Dict.mem_of_get?_ofList found)
    cases same
    exact ⟨parsed.definition, perm.mem_iff.mpr (List.mem_map_of_mem present), rfl⟩

/-- A parsed row has an entry for each column of its table and for nothing else. -/
theorem contains_iff_hasColumn (read : parseForm settings root = .ok form)
    (member : field ∈ form.schema.fields) {rows : List TableRow}
    (answered : responseTo form.responses field.id = .answered (.table rows)) {row : TableRow}
    (listed : row ∈ rows) {id : String} :
    row.contains id = true ↔ field.HasColumn id := by
  have table : field.kind = .table := (allow_of_mem_fields read member answered).1.kind.symm
  obtain ⟨limits, declared⟩ := FieldDefinition.exists_of_kind_table table
  obtain ⟨node, kind, warnings, _, readTag⟩ := readField_of_mem_fields read member
  have covered : field.constraints.Cover (.table rows) := cover_of_readField readTag answered
  rw [declared] at covered
  rw [Dict.contains_iff, (covered row listed).1.mem_iff, FieldDefinition.hasColumn_iff declared]

theorem exists_of_lt_liveRows {responses : Responses} {fieldId : String} {index : Nat}
    (below : index < (liveRows responses fieldId).length) :
    ∃ rows, responseTo responses fieldId = .answered (.table rows) ∧ index < rows.length := by
  unfold liveRows at below
  split at below
  · rename_i rows found
    refine ⟨rows, ?_, below⟩
    cases response : responseTo responses fieldId <;> simp_all [Response.value?]
  · exact absurd below (Nat.not_lt_zero index)

namespace Reference

/-- What a spelled reference points to in a form as it is filled in now. Two names are an option of
a chooser or a column of a table; a cell is an entry in a row of an answered table. -/
inductive PointsTo (form : ParsedForm) : Reference → Reference → Prop where
  | field {field : FieldDefinition} (member : field ∈ form.schema.fields) :
      PointsTo form (.field field.id) (.field field.id)
  | option {field : FieldDefinition} {id : String} (member : field ∈ form.schema.fields)
      (option : field.HasOption id) : PointsTo form (.option field.id id) (.option field.id id)
  | column {field : FieldDefinition} {id : String} (member : field ∈ form.schema.fields)
      (column : field.HasColumn id) : PointsTo form (.option field.id id) (.column field.id id)
  | cell {fieldId columnId : String} {index : Nat} {rows : List TableRow} {row : TableRow}
      (answered : responseTo form.responses fieldId = .answered (.table rows))
      (present : rows[index]? = some row) (entry : row.contains columnId = true) :
      PointsTo form (.cell fieldId columnId index) (.cell fieldId columnId index)

variable {reference target : Reference}

theorem pointsTo_of_resolve (read : parseForm settings root = .ok form)
    (spelled : reference.untyped = reference)
    (resolved : reference.resolve form.schema (some (rowCounts form.schema form.responses)) =
      .ok target) : PointsTo form reference target := by
  have distinct := distinct_fields_of_parseForm read
  obtain ⟨rfl, declared, within⟩ := resolve_eq_ok_iff.mp resolved
  cases reference with
  | field fieldId =>
    obtain ⟨field, found⟩ := declared
    obtain ⟨member, rfl⟩ := (FormSchema.field?_eq_some_iff distinct).mp found
    exact .field member
  | option fieldId id =>
    by_cases table : (form.schema.field? fieldId).any (fun field => field.kind = .table) = true
    · rw [typedIn, if_pos table] at declared ⊢
      obtain ⟨field, found, column⟩ := declared
      obtain ⟨member, rfl⟩ := (FormSchema.field?_eq_some_iff distinct).mp found
      exact .column member column
    · rw [typedIn, if_neg table] at declared ⊢
      obtain ⟨field, found, option⟩ := declared
      obtain ⟨member, rfl⟩ := (FormSchema.field?_eq_some_iff distinct).mp found
      exact .option member option
  -- No text is read as a column: it comes back as an option of the table.
  | column fieldId id => cases spelled
  | cell fieldId id index =>
    obtain ⟨field, found, column⟩ := declared
    obtain ⟨member, rfl⟩ := (FormSchema.field?_eq_some_iff distinct).mp found
    have below : index < ((rowCounts form.schema form.responses).get? field.id).getD 0 :=
      within _ rfl
    rw [get?_rowCounts form.responses distinct member column.1, Option.getD_some] at below
    obtain ⟨rows, answered, below⟩ := exists_of_lt_liveRows below
    exact .cell answered (List.getElem?_eq_getElem below)
      ((contains_iff_hasColumn read member answered (List.getElem_mem below)).mpr column)

theorem resolve_of_pointsTo (read : parseForm settings root = .ok form)
    (points : PointsTo form reference target) :
    reference.resolve form.schema (some (rowCounts form.schema form.responses)) = .ok target := by
  have distinct := distinct_fields_of_parseForm read
  apply resolve_eq_ok_iff.mpr
  cases points with
  | @field field member =>
    exact ⟨rfl, ⟨field, FormSchema.field?_of_mem distinct member⟩, trivial⟩
  | @option field id member option =>
    have found := FormSchema.field?_of_mem distinct member
    have noTable : field.kind ≠ .table := fun table => by
      cases option.1.symm.trans (FieldDefinition.isChooser_of_table table)
    refine ⟨?_, ⟨field, found, option⟩, trivial⟩
    simp [typedIn, found, noTable]
  | @column field id member column =>
    have found := FormSchema.field?_of_mem distinct member
    refine ⟨?_, ⟨field, found, column⟩, trivial⟩
    simp [typedIn, found, column.1]
  | @cell fieldId columnId index rows row answered present entry =>
    obtain ⟨field, member, rfl⟩ := exists_field_of_answered read answered
    have found := FormSchema.field?_of_mem distinct member
    have listed := List.mem_of_getElem? present
    have column := (contains_iff_hasColumn read member answered listed).mp entry
    refine ⟨rfl, ⟨field, found, column⟩, ?_⟩
    rintro counts ⟨⟩
    rw [get?_rowCounts form.responses distinct member column.1, liveRows_of_answered answered]
    exact (List.getElem?_eq_some_iff.mp present).1

/-- A text reads and resolves exactly when it spells a reference to a part of the form as it is
filled in now, and it resolves to that part. -/
theorem resolves_iff_pointsTo (read : parseForm settings root = .ok form) (text : String)
    (target : Reference) :
    (parse text >>= resolve form.schema (some (rowCounts form.schema form.responses))) =
        .ok target ↔
      ∃ reference, Spells reference text ∧ PointsTo form reference target := by
  rw [bind_eq_ok]
  constructor
  · rintro ⟨reference, found, resolved⟩
    have spelled := parse_eq_ok_iff.mp found
    exact ⟨reference, spelled, pointsTo_of_resolve read spelled.untyped_eq resolved⟩
  · rintro ⟨reference, spelled, points⟩
    exact ⟨reference, parse_eq_ok_iff.mpr spelled, resolve_of_pointsTo read points⟩

/-- The table of guests has rows 0 and 1. -/
theorem pointsTo_guests : ∃ form, parseForm .standard survey = .ok form ∧
    (∃ reference, Spells reference "guests.born[1]" ∧
      PointsTo form reference (.cell "guests" "born" 1)) ∧
    ∀ target, ¬ ∃ reference, Spells reference "guests.born[2]" ∧ PointsTo form reference target := by
  have computed : (parseForm .standard survey).toOption.any (fun form =>
      let resolveText (text : String) :=
        parse text >>= resolve form.schema (some (rowCounts form.schema form.responses))
      (resolveText "guests.born[1]").toOption = some (.cell "guests" "born" 1) &&
        (resolveText "guests.born[2]").toOption = none) = true := by
    decide +kernel
  obtain ⟨form, found, tested⟩ := (Option.any_eq_true _ _).mp computed
  have read := toOption_eq_some.mp found
  simp only [Bool.and_eq_true, decide_eq_true_eq] at tested
  obtain ⟨inside, beyond⟩ := tested
  refine ⟨form, read, (resolves_iff_pointsTo read _ _).mp (toOption_eq_some.mp inside), ?_⟩
  intro target points
  rw [(resolves_iff_pointsTo read _ _).mpr points] at beyond
  cases beyond

end Reference

end DocForm
