import DocForm.Proofs.Table.Line
import DocForm.Proofs.Table.Reading

/-! Which texts are tables. Main statement: a table is read exactly when its lines are laid out as
one, and then every line behind the separator is a row with a cell in every column. -/

namespace DocForm

/-- What the lines between header and separator tell: the kinds of the columns, or nothing. -/
inductive TellsKinds (width : Nat) : List String → List ColumnKind → Prop where
  | silent : TellsKinds width [] (List.replicate width (.string, false))
  | row {line : String} {kinds : List ColumnKind} (typed : IsTypeRow width line kinds) :
      TellsKinds width [line] kinds

/-- The columns that a header names. -/
def headerColumns (labels : List String) (kinds : List ColumnKind) : List TableColumn :=
  (labels.zip kinds).mapIdx fun position (label, type, required) =>
    ⟨inferredId position label, label, type, required⟩

/-- Declared columns under a header. An empty cell of the header is no label. -/
def underHeader (labels : List String) (columns : List TableColumn) : List TableColumn :=
  columns.mapIdx fun position column =>
    match labels[position]? with
    | none => column
    | some label => if label.isEmpty then column else { column with label }

/-- How the lines of a table are laid out, the columns they tell, and the lines of its rows. -/
inductive TableLayout (labelled : Bool) :
    Option (List TableColumn) → List String → List TableColumn → List String → Prop where
  /-- Declared columns need no lines below them. -/
  | empty {columns : List TableColumn} : TableLayout labelled (some columns) [] columns []
  | declared {columns : List TableColumn} {header separator : String} {body : List String}
      (ruled : IsSeparator (splitRow header).length separator) :
      TableLayout labelled (some columns) (header :: separator :: body)
        (if labelled then columns else underHeader (splitRow header) columns) body
  | inline {header separator : String} {types body : List String} {kinds : List ColumnKind}
      (distinct : ((splitRow header).mapIdx inferredId).Nodup)
      (told : TellsKinds (splitRow header).length types kinds)
      (ruled : IsSeparator (splitRow header).length separator) :
      TableLayout labelled none (header :: (types ++ separator :: body))
        (headerColumns (splitRow header) kinds) body

/-- A row holds the cells of its line: a missing cell is empty and a surplus one is left out. Of
columns that share an id the last is kept. -/
structure ReadsLine (columns : List TableColumn) (line : String) (row : TableRow) : Prop where
  cell : ∀ position column, columns[position]? = some column →
    (∀ later ∈ columns.drop (position + 1), later.id ≠ column.id) →
      row.get? column.id = some (parseCell ((splitRow line)[position]?.getD "") column.type)
  keys : ∀ id, row.contains id = true ↔ id ∈ columns.map (·.id)

variable {place : Place} {columns found : List TableColumn} {labelled : Bool}
  {labels lines body : List String} {kinds : List ColumnKind} {width : Nat}

theorem withKinds_columnsFrom (labels : List String) (kinds : List ColumnKind) :
    withKinds (columnsFrom 0 labels) kinds = headerColumns labels kinds := by
  apply List.ext_getElem?
  intro position
  rw [withKinds, headerColumns, columnsFrom_eq, List.zip, List.getElem?_mapIdx,
    List.getElem?_zipWith, List.getElem?_zipWith, List.getElem?_mapIdx]
  cases labels[position]? <;> cases kinds[position]? <;> simp

theorem columnsFrom_eq_headerColumns (labels : List String) :
    columnsFrom 0 labels =
      headerColumns labels (List.replicate labels.length (.string, false)) := by
  apply List.ext_getElem?
  intro position
  rw [headerColumns, columnsFrom_eq, List.zip, List.getElem?_mapIdx, List.getElem?_mapIdx,
    List.getElem?_zipWith]
  cases found : labels[position]? with
  | none => simp
  | some label =>
    have below : position < labels.length := (List.getElem?_eq_some_iff.mp found).1
    simp [below]

theorem afterSeparator_eq_ok_iff : afterSeparator place width lines = .ok body ↔
    ∃ separator, lines = separator :: body ∧ IsSeparator width separator := by
  cases lines with
  | nil => simp [afterSeparator, refuseAt_ne_ok]
  | cons separator rest =>
    simp only [afterSeparator, ite_eq_ok, isSeparatorRow_iff, refuseAt_ne_ok, and_false, or_false,
      Except.ok.injEq, List.cons.injEq]
    constructor
    · rintro ⟨ruled, rfl⟩
      exact ⟨separator, ⟨rfl, rfl⟩, ruled⟩
    · rintro ⟨_, ⟨rfl, rfl⟩, ruled⟩
      exact ⟨ruled, rfl⟩

theorem relabel_eq_underHeader (columns : List TableColumn) (labels : List String) :
    relabel columns labels = underHeader labels columns := by
  induction columns generalizing labels with
  | nil => cases labels <;> rfl
  | cons column rest ih =>
    rw [underHeader, List.mapIdx_cons]
    cases labels with
    | nil =>
      have unlabelled : rest.mapIdx (fun _ column => column) = rest :=
        List.ext_getElem? fun position => by simp
      simpa [relabel] using unlabelled.symm
    | cons label more =>
      rw [relabel, ih, underHeader]
      simp

theorem declaredColumns_eq_ok_iff :
    declaredColumns place columns labelled lines = .ok (found, body) ↔
      TableLayout labelled (some columns) lines found body := by
  cases lines with
  | nil =>
    constructor
    · intro read
      cases read
      exact .empty
    · intro layout
      cases layout
      rfl
  | cons header rest =>
    simp only [declaredColumns, bind_eq_ok, pure_eq_ok, afterSeparator_eq_ok_iff, Prod.mk.injEq,
      relabel_eq_underHeader]
    constructor
    · rintro ⟨_, ⟨separator, rfl, ruled⟩, rfl, rfl⟩
      exact .declared ruled
    · intro layout
      cases layout with
      | declared ruled => exact ⟨_, ⟨_, rfl, ruled⟩, rfl, rfl⟩

theorem layout_of_inlineColumns (read : inlineColumns place lines = .ok (found, body)) :
    TableLayout labelled none lines found body := by
  cases lines with
  | nil => exact absurd read refuseAt_ne_ok
  | cons header rest =>
    obtain ⟨inferred, named, read⟩ := bind_eq_ok.mp read
    obtain ⟨columns, distinct⟩ := inferColumns_header_eq_ok_iff.mp named
    rw [columns] at read
    cases rest with
    | nil => simp only [refuseAt_ne_ok] at read
    | cons second after =>
      rw [length_columnsFrom] at read
      cases typed : typeRow? (splitRow second) (splitRow header).length with
      | some kinds =>
        simp only [typed, bind_eq_ok, pure_eq_ok, Prod.mk.injEq, afterSeparator_eq_ok_iff] at read
        obtain ⟨_, ⟨separator, rfl, ruled⟩, rfl, rfl⟩ := read
        rw [withKinds_columnsFrom]
        exact .inline distinct (.row (typeRow?_eq_some_iff.mp typed)) ruled
      | none =>
        simp only [typed, bind_eq_ok, pure_eq_ok, Prod.mk.injEq, afterSeparator_eq_ok_iff] at read
        obtain ⟨_, ⟨separator, same, ruled⟩, rfl, rfl⟩ := read
        rw [same, columnsFrom_eq_headerColumns]
        exact .inline distinct .silent ruled

theorem inlineColumns_of_layout (layout : TableLayout labelled none lines found body) :
    inlineColumns place lines = .ok (found, body) := by
  cases layout with
  | @inline header separator types body kinds distinct told ruled =>
    have named : inferColumns place 0 [] (splitRow header) = .ok (columnsFrom 0 (splitRow header)) :=
      inferColumns_header_eq_ok_iff.mpr ⟨rfl, distinct⟩
    refine bind_eq_ok.mpr ⟨_, named, ?_⟩
    rw [length_columnsFrom]
    have split : afterSeparator place (splitRow header).length (separator :: body) = .ok body :=
      afterSeparator_eq_ok_iff.mpr ⟨separator, rfl, ruled⟩
    cases told with
    | silent =>
      have untyped : typeRow? (splitRow separator) (splitRow header).length = none := by
        refine Option.eq_none_iff_forall_ne_some.mpr fun kinds typed => ?_
        exact ruled.not_isTypeRow (typeRow?_eq_some_iff.mp typed)
      simp only [List.nil_append, untyped, bind_eq_ok, pure_eq_ok]
      exact ⟨body, split, by rw [columnsFrom_eq_headerColumns]⟩
    | row typed =>
      have typed := typeRow?_eq_some_iff.mpr typed
      simp only [List.singleton_append, typed, bind_eq_ok, pure_eq_ok]
      exact ⟨body, split, by rw [withKinds_columnsFrom]⟩

theorem readsLine_parseRow (columns : List TableColumn) (line : String) :
    ReadsLine columns line (parseRow columns line) where
  cell position column found last := by
    have listed : (rowCells columns (splitRow line))[position]? =
        some (column.id, parseCell ((splitRow line)[position]?.getD "") column.type) := by
      rw [rowCells_eq, List.getElem?_mapIdx, found, Option.map_some]
    obtain ⟨below, same⟩ := List.getElem?_eq_some_iff.mp listed
    have split := List.take_append_drop position (rowCells columns (splitRow line))
    rw [List.drop_eq_getElem_cons below, same] at split
    rw [parseRow, ← split]
    apply Dict.get?_ofList_append
    rw [List.map_drop, ids_rowCells, ← List.map_drop]
    rintro repeated
    obtain ⟨later, member, sameId⟩ := List.mem_map.mp repeated
    exact last later member sameId
  keys id := by
    rw [parseRow, Dict.contains_ofList, ids_rowCells]

variable {text : Option String} {declared : Option (List TableColumn)} {table : ParsedTable}

theorem parseTable_eq_ok_iff : parseTable text declared labelled place = .ok table ↔
    ∃ body, TableLayout labelled declared (Text.lines (text.getD "")) table.columns body ∧
      table.rows = body.map (parseRow table.columns) := by
  obtain ⟨columns, rows⟩ := table
  cases declared with
  | none =>
    simp only [parseTable, bind_eq_ok, pure_eq_ok, Prod.exists, ParsedTable.mk.injEq]
    constructor
    · rintro ⟨_, body, read, rfl, rfl⟩
      exact ⟨body, layout_of_inlineColumns read, rfl⟩
    · rintro ⟨body, layout, rfl⟩
      exact ⟨columns, body, inlineColumns_of_layout layout, rfl, rfl⟩
  | some declared =>
    simp only [parseTable, bind_eq_ok, pure_eq_ok, Prod.exists, ParsedTable.mk.injEq,
      declaredColumns_eq_ok_iff]
    constructor
    · rintro ⟨_, body, layout, rfl, rfl⟩
      exact ⟨body, layout, rfl⟩
    · rintro ⟨body, layout, rfl⟩
      exact ⟨columns, body, layout, rfl, rfl⟩

/-- Lines are laid out in one way only: no line is a row of types and a separator at once. -/
theorem TableLayout.unique {others : List TableColumn} {rest : List String}
    (first : TableLayout labelled declared lines columns body)
    (second : TableLayout labelled declared lines others rest) : others = columns ∧ rest = body := by
  cases declared with
  | none =>
    have same : inlineColumns ⟨none, none⟩ lines = .ok (others, rest) :=
      inlineColumns_of_layout second
    rw [inlineColumns_of_layout first] at same
    simpa [eq_comm] using same
  | some declared =>
    have same : declaredColumns ⟨none, none⟩ declared labelled lines = .ok (others, rest) :=
      declaredColumns_eq_ok_iff.mpr second
    rw [declaredColumns_eq_ok_iff.mpr first] at same
    simpa [eq_comm] using same

/-- A text is a table exactly when its lines are laid out as one. Its columns are those of the
layout, every line behind the separator is a row, and no two columns of a schema share an id. -/
theorem reads_tables_exactly (text : Option String) (declared : Option (List TableColumn))
    (labelled : Bool) (place : Place) :
    ((∃ table, parseTable text declared labelled place = .ok table) ↔
      ∃ columns body, TableLayout labelled declared (Text.lines (text.getD "")) columns body) ∧
    ∀ table, parseTable text declared labelled place = .ok table →
      (∀ columns body,
        TableLayout labelled declared (Text.lines (text.getD "")) columns body →
          table.columns = columns ∧ List.Forall₂ (ReadsLine columns) body table.rows) ∧
      ((declared = none ∨ ∃ node other, explicitColumns node other = .ok declared) →
        (table.columns.map (·.id)).Nodup) := by
  refine ⟨⟨?_, ?_⟩, fun table read => ⟨fun columns body layout => ?_, fun schema => ?_⟩⟩
  · rintro ⟨table, read⟩
    obtain ⟨body, layout, _⟩ := parseTable_eq_ok_iff.mp read
    exact ⟨table.columns, body, layout⟩
  · rintro ⟨columns, body, layout⟩
    exact ⟨⟨columns, body.map (parseRow columns)⟩, parseTable_eq_ok_iff.mpr ⟨body, layout, rfl⟩⟩
  · obtain ⟨found, known, rows⟩ := parseTable_eq_ok_iff.mp read
    obtain ⟨sameColumns, sameBody⟩ := layout.unique known
    refine ⟨sameColumns, ?_⟩
    rw [rows, sameColumns, sameBody, List.forall₂_map_right_iff]
    exact List.forall₂_same.mpr fun line _ => readsLine_parseRow columns line
  · refine (parseTable_eq_ok (fun columns known => ?_) read).1.2
    rcases schema with rfl | ⟨node, other, declares⟩
    · cases known
    · rw [Option.mem_def] at known
      exact wellNamed_of_explicitColumns (known ▸ declares)

end DocForm
