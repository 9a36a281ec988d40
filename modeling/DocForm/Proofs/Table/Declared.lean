import DocForm.Proofs.Table.Line
import DocForm.Proofs.Table.Reading

/-! What the attributes of a table declare. Main statement: there are declared columns exactly when
some ids are listed that are distinct identifiers, each with a label and a kind where these are
given; without any of the attributes nothing is declared, and all else is refused. -/

namespace DocForm

/-- A lone text, or a list of nothing but texts. -/
inductive ListsTexts : AttributeValue → List String → Prop where
  | lone (text : String) : ListsTexts (.text text) [text]
  | list (texts : List String) : ListsTexts (.list (texts.map .text)) texts

/-- The name of a type, white space around it aside, or a record with such a name. Only a record
can say that the column is required. -/
inductive WritesKind : AttributeValue → ColumnKind → Prop where
  | name {text : String} {type : ColumnType} (named : Text.trim text = type.name) :
      WritesKind (.text text) (type, false)
  | record {parts : List (String × AttributeValue)} {text : String} {type : ColumnType}
      {required : Bool} (typed : parts.lookup "type" = some (.text text))
      (named : Text.trim text = type.name)
      (marks : required = true ↔ parts.lookup "required" = some (.bool true)) :
      WritesKind (.record parts) (type, required)

/-- A lone name, or a list that writes one kind after another. -/
inductive ListsKinds : AttributeValue → List ColumnKind → Prop where
  | lone {text : String} {kind : ColumnKind} (writes : WritesKind (.text text) kind) :
      ListsKinds (.text text) [kind]
  | list {entries : List AttributeValue} {kinds : List ColumnKind}
      (writes : List.Forall₂ WritesKind entries kinds) : ListsKinds (.list entries) kinds

/-- The type of a column and whether it is required. -/
def TableColumn.kind (column : TableColumn) : ColumnKind := (column.type, column.required)

/-- The attributes that declare columns. -/
def columnAttributes : List String := ["columnIds", "columnLabels", "columnTypes"]

/-- The attributes of a tag declare the columns, entry by entry. A label that is not given is the
id, and a kind that is not given is an optional text. -/
structure Node.Declares (node : Node) (columns : List TableColumn) : Prop where
  nonempty : columns ≠ []
  ids : ∃ value written, node.attribute? "columnIds" = some value ∧ ListsTexts value written ∧
    columns.map (·.id) = written.map Text.trim
  named : WellNamed (columns.map (·.id))
  labels : (node.attribute? "columnLabels" = none ∧ columns.map (·.label) = columns.map (·.id)) ∨
    ∃ value written, node.attribute? "columnLabels" = some value ∧ ListsTexts value written ∧
      columns.map (·.label) = written.map Text.trim
  kinds : (node.attribute? "columnTypes" = none ∧
      ∀ column ∈ columns, column.kind = (.string, false)) ∨
    ∃ value, node.attribute? "columnTypes" = some value ∧
      ListsKinds value (columns.map (·.kind))

variable {node : Node} {place : Place} {name : String} {value : AttributeValue}

theorem text?_eq_some_iff {text : String} : value.text? = some text ↔ value = .text text := by
  cases value <;> simp [AttributeValue.text?]

/-- An item that is no text is refused. -/
theorem readText_eq_ok_iff {item : AttributeValue} {text : String} :
    (match item.text? with
      | some text => .ok text
      | none => refuseAt place (.invalidValue name item.describe) : Except ParseError String) =
        .ok text ↔ item = .text text := by
  rw [← text?_eq_some_iff]
  cases item.text? with
  | none => simp [refuseAt_ne_ok]
  | some found => simp

theorem forall₂_text_iff {items : List AttributeValue} {texts : List String} :
    List.Forall₂ (fun item text => item = .text text) items texts ↔ items = texts.map .text := by
  rw [← List.forall₂_eq_eq_eq, List.forall₂_map_right_iff]

theorem readTexts_eq_ok_iff {texts : List String} :
    readTexts place name value = .ok texts ↔ ListsTexts value texts := by
  cases value with
  | text text =>
    constructor
    · rintro ⟨⟩
      exact .lone text
    · rintro ⟨⟩
      rfl
  | list items =>
    simp only [readTexts, mapM_eq_ok]
    constructor
    · intro read
      cases forall₂_text_iff.mp (read.imp fun _ _ => readText_eq_ok_iff.mp)
      exact .list texts
    · rintro ⟨⟩
      exact (forall₂_text_iff.mpr rfl).imp fun _ _ => readText_eq_ok_iff.mpr
  | null | bool | number | record =>
    constructor
    · exact fun read => absurd read refuseAt_ne_ok
    · rintro ⟨⟩

theorem readTextsOf_eq_ok_iff {found : Option (List String)} :
    readTextsOf node place name = .ok found ↔
      (node.attribute? name = none ∧ found = none) ∨
        ∃ value texts, node.attribute? name = some value ∧ ListsTexts value texts ∧
          found = some texts := by
  unfold readTextsOf
  cases node.attribute? name with
  | none => simp [eq_comm]
  | some value =>
    simp only [bind_eq_ok, pure_eq_ok, readTexts_eq_ok_iff]
    constructor
    · rintro ⟨texts, lists, rfl⟩
      exact .inr ⟨value, texts, rfl, lists, rfl⟩
    · rintro (⟨absent, _⟩ | ⟨_, texts, ⟨⟩, lists, rfl⟩)
      · cases absent
      · exact ⟨texts, lists, rfl⟩

theorem readColumnType_eq_ok_iff {text : String} {type : ColumnType} :
    readColumnType place text = .ok type ↔ Text.trim text = type.name := by
  rw [← read?_eq_some_iff, readColumnType]
  cases found : (Vocabulary.read? (Text.trim text) : Option ColumnType) with
  | none => simp [refuseAt_ne_ok]
  | some type => simp

theorem readColumnKind_eq_ok_iff {kind : ColumnKind} :
    readColumnKind place value = .ok kind ↔ WritesKind value kind := by
  cases value with
  | text text =>
    simp only [readColumnKind, bind_eq_ok, pure_eq_ok, readColumnType_eq_ok_iff]
    constructor
    · rintro ⟨type, named, rfl⟩
      exact .name named
    · rintro ⟨named⟩
      exact ⟨_, named, rfl⟩
  | record parts =>
    simp only [readColumnKind]
    constructor
    · intro read
      split at read
      · rename_i text typed
        obtain ⟨type, named, same⟩ := bind_eq_ok.mp read
        cases pure_eq_ok.mp same
        refine .record typed (readColumnType_eq_ok_iff.mp named) ?_
        split <;> simp_all
      · exact absurd read refuseAt_ne_ok
    · rintro (_ | ⟨typed, named, marks⟩)
      rw [typed]
      refine bind_eq_ok.mpr ⟨_, readColumnType_eq_ok_iff.mpr named, ?_⟩
      refine congrArg (fun required => Except.ok (_, required)) (Bool.eq_iff_iff.mpr ?_)
      rw [marks]
      split <;> simp_all
  | null | bool | number | list =>
    constructor
    · exact fun read => absurd read refuseAt_ne_ok
    · rintro ⟨⟩

theorem readColumnKinds_eq_ok_iff {found : Option (List ColumnKind)} :
    readColumnKinds node place = .ok found ↔
      (node.attribute? "columnTypes" = none ∧ found = none) ∨
        ∃ value kinds, node.attribute? "columnTypes" = some value ∧ ListsKinds value kinds ∧
          found = some kinds := by
  unfold readColumnKinds
  cases node.attribute? "columnTypes" with
  | none => simp [eq_comm]
  | some value =>
    cases value with
    | text text =>
      simp only [bind_eq_ok, pure_eq_ok, readColumnKind_eq_ok_iff]
      constructor
      · rintro ⟨kind, writes, rfl⟩
        exact .inr ⟨_, _, rfl, .lone writes, rfl⟩
      · rintro (⟨absent, _⟩ | ⟨_, _, ⟨⟩, writes, rfl⟩)
        · cases absent
        · cases writes with
          | lone writes => exact ⟨_, writes, rfl⟩
    | list entries =>
      simp only [bind_eq_ok, pure_eq_ok, mapM_eq_ok, readColumnKind_eq_ok_iff]
      constructor
      · rintro ⟨kinds, writes, rfl⟩
        exact .inr ⟨_, _, rfl, .list writes, rfl⟩
      · rintro (⟨absent, _⟩ | ⟨_, _, ⟨⟩, writes, rfl⟩)
        · cases absent
        · cases writes with
          | list writes => exact ⟨_, writes, rfl⟩
    | null | bool | number | record =>
      constructor
      · exact fun read => absurd read refuseAt_ne_ok
      · rintro (⟨absent, _⟩ | ⟨_, _, ⟨⟩, ⟨⟩, _⟩)
        cases absent

theorem checkIds_of_wellNamed {taken ids : List String} (named : WellNamed ids)
    (apart : ∀ id ∈ ids, id ∉ taken) : checkIds place taken ids = .ok () := by
  induction ids generalizing taken with
  | nil => rfl
  | cons id rest ih =>
    obtain ⟨identifiers, distinct⟩ := named
    obtain ⟨identifier, others⟩ := List.forall_mem_cons.mp identifiers
    obtain ⟨fresh, later⟩ := List.nodup_cons.mp distinct
    have new : taken.contains id = false := by simpa using apart id (List.mem_cons_self ..)
    simp only [checkIds, identifier, new, Bool.not_true, Bool.false_eq_true, if_false]
    refine ih ⟨others, later⟩ fun other member known => ?_
    rcases List.mem_cons.mp known with rfl | known
    · exact fresh member
    · exact apart other (List.mem_cons_of_mem _ member) known

theorem checkEntries_of_length {α : Type} {ids : List String} {entries : Option (List α)}
    (sameLength : ∀ listed ∈ entries, listed.length = ids.length) :
    checkEntries place name ids entries = .ok () := by
  cases entries with
  | none => rfl
  | some listed => exact if_pos (sameLength listed rfl)

/-- Columns put together of ids, labels and kinds are told by these lists. -/
theorem eq_zipWith_iff {ids labels : List String} {kinds : List ColumnKind}
    {columns : List TableColumn} (sameLabels : labels.length = ids.length)
    (sameKinds : kinds.length = ids.length) :
    columns = List.zipWith (fun id (label, type, required) => ⟨id, label, type, required⟩) ids
        (labels.zip kinds) ↔
      columns.map (·.id) = ids ∧ columns.map (·.label) = labels ∧ columns.map (·.kind) = kinds := by
  induction ids generalizing labels kinds columns with
  | nil =>
    cases List.eq_nil_of_length_eq_zero sameLabels
    cases List.eq_nil_of_length_eq_zero sameKinds
    simp
  | cons id ids ih =>
    obtain ⟨label, labels, rfl⟩ := List.exists_cons_of_length_eq_add_one sameLabels
    obtain ⟨⟨type, required⟩, kinds, rfl⟩ := List.exists_cons_of_length_eq_add_one sameKinds
    cases columns with
    | nil => simp
    | cons column columns =>
      have rest := @ih labels kinds columns (by simpa using sameLabels) (by simpa using sameKinds)
      obtain ⟨_, _, _, _⟩ := column
      simp only [List.zip_cons_cons, List.zipWith_cons_cons, List.cons.injEq, rest, List.map_cons,
        TableColumn.mk.injEq, TableColumn.kind, Prod.mk.injEq]
      tauto

theorem eq_buildColumns_iff {ids : List String} {labels : Option (List String)}
    {kinds : Option (List ColumnKind)} {columns : List TableColumn}
    (labelled : ∀ listed ∈ labels, listed.length = ids.length)
    (typed : ∀ listed ∈ kinds, listed.length = ids.length) :
    columns = buildColumns ids labels kinds ↔
      columns.map (·.id) = ids ∧
        columns.map (·.label) = (labels.map (·.map Text.trim)).getD ids ∧
        columns.map (·.kind) = kinds.getD (ids.map fun _ => (.string, false)) := by
  apply eq_zipWith_iff
  · cases labels with
    | none => rfl
    | some listed => simpa using labelled listed rfl
  · cases kinds with
    | none => simp
    | some listed => exact typed listed rfl

theorem kind_const_iff {columns : List TableColumn} {ids : List String}
    (same : columns.map (·.id) = ids) :
    columns.map (·.kind) = ids.map (fun _ => (.string, false)) ↔
      ∀ column ∈ columns, column.kind = (.string, false) := by
  rw [← same, List.map_map]
  exact List.map_inj_left

theorem declares_of_explicitColumns {columns : List TableColumn}
    (read : explicitColumns node place = .ok (some columns)) : node.Declares columns := by
  have nonempty := explicitColumns_ne_nil read
  have named := wellNamed_of_explicitColumns read
  obtain ⟨written, labels, kinds, listed, readLabels, readKinds, _, labelled, typed, _, built⟩ :=
    explicitColumns_eq_ok read
  obtain ⟨sameIds, sameLabels, sameKinds⟩ := (eq_buildColumns_iff labelled typed).mp built
  refine ⟨nonempty, ?_, named, ?_, ?_⟩
  · rcases readTextsOf_eq_ok_iff.mp listed with ⟨_, absent⟩ | ⟨value, texts, present, lists, same⟩
    · cases absent
    · cases same
      exact ⟨value, written, present, lists, sameIds⟩
  · rcases readTextsOf_eq_ok_iff.mp readLabels with ⟨absent, rfl⟩ | ⟨value, _, present, lists, rfl⟩
    · exact .inl ⟨absent, sameLabels.trans sameIds.symm⟩
    · exact .inr ⟨value, _, present, lists, sameLabels⟩
  · rcases readColumnKinds_eq_ok_iff.mp readKinds with ⟨absent, rfl⟩ | ⟨value, _, given, writes, rfl⟩
    · exact .inl ⟨absent, (kind_const_iff sameIds).mp sameKinds⟩
    · refine .inr ⟨value, given, ?_⟩
      rwa [sameKinds]

namespace Node.Declares

variable {columns : List TableColumn}

theorem exists_labels (place : Place) (declares : node.Declares columns) :
    ∃ labels, readTextsOf node place "columnLabels" = .ok labels ∧
      columns.map (·.label) = (labels.map (·.map Text.trim)).getD (columns.map (·.id)) := by
  rcases declares.labels with ⟨absent, same⟩ | ⟨value, written, present, lists, same⟩
  · exact ⟨none, readTextsOf_eq_ok_iff.mpr (.inl ⟨absent, rfl⟩), same⟩
  · exact ⟨some written,
      readTextsOf_eq_ok_iff.mpr (.inr ⟨value, written, present, lists, rfl⟩), same⟩

theorem exists_kinds (place : Place) (declares : node.Declares columns) :
    ∃ kinds, readColumnKinds node place = .ok kinds ∧
      columns.map (·.kind) = kinds.getD ((columns.map (·.id)).map fun _ => (.string, false)) := by
  rcases declares.kinds with ⟨absent, texts⟩ | ⟨value, present, writes⟩
  · exact ⟨none, readColumnKinds_eq_ok_iff.mpr (.inl ⟨absent, rfl⟩), (kind_const_iff rfl).mpr texts⟩
  · exact ⟨some _, readColumnKinds_eq_ok_iff.mpr (.inr ⟨value, _, present, writes, rfl⟩), rfl⟩

theorem explicitColumns_eq (declares : node.Declares columns) :
    explicitColumns node place = .ok (some columns) := by
  obtain ⟨value, written, present, lists, ids⟩ := declares.ids
  obtain ⟨labels, readLabels, sameLabels⟩ := declares.exists_labels place
  obtain ⟨kinds, readKinds, sameKinds⟩ := declares.exists_kinds place
  have listed : readTextsOf node place "columnIds" = .ok (some written) :=
    readTextsOf_eq_ok_iff.mpr (.inr ⟨value, written, present, lists, rfl⟩)
  have named := declares.named
  rw [ids] at named sameLabels sameKinds
  have labelled : ∀ listed ∈ labels, listed.length = (written.map Text.trim).length := by
    rintro listed ⟨⟩
    simpa [← ids] using (congrArg List.length sameLabels).symm
  have typed : ∀ listed ∈ kinds, listed.length = (written.map Text.trim).length := by
    rintro listed ⟨⟩
    simpa [← ids] using (congrArg List.length sameKinds).symm
  refine bind_eq_ok.mpr ⟨_, listed, ?_⟩
  cases written with
  | nil => exact absurd (List.map_eq_nil_iff.mp ids) declares.nonempty
  | cons first rest =>
    simp only [bind_eq_ok, pure_eq_ok, Option.some.injEq]
    exact ⟨labels, readLabels, (), checkEntries_of_length labelled, kinds, readKinds, (),
      checkEntries_of_length typed, (), checkIds_of_wellNamed named (by simp),
      ((eq_buildColumns_iff labelled typed).mpr ⟨ids, sameLabels, sameKinds⟩).symm⟩

end Node.Declares

theorem explicitColumns_eq_some_iff {columns : List TableColumn} :
    explicitColumns node place = .ok (some columns) ↔ node.Declares columns :=
  ⟨declares_of_explicitColumns, Node.Declares.explicitColumns_eq⟩

theorem hasAttribute_eq_false_iff :
    node.hasAttribute name = false ↔ node.attribute? name = none := by
  simp [Node.hasAttribute, Node.attribute?, Dict.contains]

/-- Labels and types without ids are refused, so nothing is declared only by saying nothing. -/
theorem explicitColumns_eq_none_iff :
    explicitColumns node place = .ok none ↔
      ∀ name ∈ columnAttributes, node.hasAttribute name = false := by
  rw [columnAttributes, List.forall_mem_cons]
  constructor
  · intro read
    obtain ⟨found, listed, read⟩ := bind_eq_ok.mp read
    rcases readTextsOf_eq_ok_iff.mp listed with ⟨absent, rfl⟩ | ⟨_, written, _, _, rfl⟩
    · refine ⟨hasAttribute_eq_false_iff.mpr absent, ?_⟩
      simp only at read
      split at read
      · exact absurd read refuseAt_ne_ok
      · rename_i alone
        simpa using List.find?_eq_none.mp alone
    · cases written with
      | nil => exact absurd read refuseAt_ne_ok
      | cons first rest =>
        simp only [bind_eq_ok, pure_eq_ok] at read
        obtain ⟨_, _, _, _, _, _, _, _, _, _, same⟩ := read
        cases same
  · rintro ⟨absent, others⟩
    have listed : readTextsOf node place "columnIds" = .ok none :=
      readTextsOf_eq_ok_iff.mpr (.inl ⟨hasAttribute_eq_false_iff.mp absent, rfl⟩)
    have alone : ["columnLabels", "columnTypes"].find? node.hasAttribute = none :=
      List.find?_eq_none.mpr fun name member => by simp [others name member]
    refine bind_eq_ok.mpr ⟨none, listed, ?_⟩
    rw [alone]
    rfl

/-- The declared columns of a table are exactly those that the attributes of its tag declare.
Without any of these attributes nothing is declared; attributes that declare no columns are
refused. -/
theorem declares_exactly (node : Node) (place : Place) :
    (explicitColumns node place = .ok none ↔
        ∀ name ∈ columnAttributes, node.hasAttribute name = false) ∧
      (∀ columns, explicitColumns node place = .ok (some columns) ↔ node.Declares columns) ∧
      ((∃ error, explicitColumns node place = .error error) ↔
        (∃ name ∈ columnAttributes, node.hasAttribute name = true) ∧
          ¬ ∃ columns, node.Declares columns) := by
  refine ⟨explicitColumns_eq_none_iff, fun columns => explicitColumns_eq_some_iff, ?_⟩
  have silent : (∃ name ∈ columnAttributes, node.hasAttribute name = true) ↔
      explicitColumns node place ≠ .ok none := by
    rw [Ne, explicitColumns_eq_none_iff]
    push Not
    simp
  have told (columns : List TableColumn) :
      node.Declares columns ↔ explicitColumns node place = .ok (some columns) :=
    explicitColumns_eq_some_iff.symm
  simp only [silent, told]
  cases explicitColumns node place with
  | error error => simp
  | ok found => cases found <;> simp

/-- Two columns, of which the second is told by a record and neither has a label. -/
def members : Node where
  type := "tag"
  tag := some "table-field"
  attributes := .ofList [("columnIds", .list [.text " name", .text "born "]),
    ("columnTypes", .list [.text " string ",
      .record [("required", .bool true), ("type", .text "year")]])]
  children := []
  lines := []

theorem declares_members :
    members.Declares [⟨"name", "name", .string, false⟩, ⟨"born", "born", .year, true⟩] := by
  apply ((declares_exactly members ⟨none, none⟩).2.1 _).mp
  apply toOption_eq_some.mp
  decide +kernel

end DocForm
