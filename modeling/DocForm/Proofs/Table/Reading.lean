import DocForm.Decimal.Digits
import DocForm.Proofs.Lookup
import DocForm.Proofs.Outcome
import DocForm.Table.Text

/-! What the reader of a table has found. Main statements: column ids are distinct identifiers,
wherever they come from, and every row holds a cell with a response for every column. -/

namespace DocForm

/-- Ids that are identifiers and differ from each other. -/
def WellNamed (ids : List String) : Prop := (∀ id ∈ ids, isIdentifier id = true) ∧ ids.Nodup

variable {place : Place}

theorem refuseAt_ne_ok {α : Type} {fault : Fault} {result : α} :
    refuseAt place fault ≠ .ok result := by
  simp [refuseAt]

theorem checkIds_eq_ok {taken ids : List String} {done : Unit}
    (checked : checkIds place taken ids = .ok done) :
    WellNamed ids ∧ ∀ id ∈ ids, id ∉ taken := by
  induction ids generalizing taken with
  | nil => exact ⟨⟨by simp, List.nodup_nil⟩, by simp⟩
  | cons id rest ih =>
    simp only [checkIds, ite_eq_ok, refuseAt_ne_ok, and_false, false_or] at checked
    obtain ⟨identifier, fresh, later⟩ := checked
    obtain ⟨⟨identifiers, distinct⟩, apart⟩ := ih later
    refine ⟨⟨?_, List.nodup_cons.mpr ⟨fun repeated => ?_, distinct⟩⟩, ?_⟩
    · intro other member
      rcases List.mem_cons.mp member with rfl | member
      · simpa using identifier
      · exact identifiers other member
    · exact apart id repeated (List.mem_cons_self ..)
    · intro other member known
      rcases List.mem_cons.mp member with rfl | member
      · simp [known] at fresh
      · exact apart other member (List.mem_cons_of_mem _ known)

theorem checkEntries_eq_ok {α : Type} {name : String} {ids : List String}
    {entries : Option (List α)} {done : Unit} (checked : checkEntries place name ids entries = .ok done) :
    ∀ listed ∈ entries, listed.length = ids.length := by
  rintro listed ⟨⟩
  simp only [checkEntries, ite_eq_ok, refuseAt_ne_ok, and_false, or_false] at checked
  exact checked.1

theorem ids_zipWith {labels : List String} {kinds : List ColumnKind} :
    ∀ {ids : List String}, labels.length = ids.length → kinds.length = ids.length →
      (List.zipWith (fun id (label, type, required) => TableColumn.mk id label type required)
        ids (labels.zip kinds)).map (·.id) = ids := by
  intro ids sameLabels sameKinds
  induction ids generalizing labels kinds with
  | nil => rfl
  | cons id rest ih =>
    cases labels with
    | nil => simp at sameLabels
    | cons label labels =>
      cases kinds with
      | nil => simp at sameKinds
      | cons kind kinds =>
        exact congrArg (id :: ·) (ih (by simpa using sameLabels) (by simpa using sameKinds))

/-- There is one column for each id. -/
theorem ids_buildColumns {ids : List String} {labels : Option (List String)}
    {kinds : Option (List ColumnKind)} (labelled : ∀ listed ∈ labels, listed.length = ids.length)
    (typed : ∀ listed ∈ kinds, listed.length = ids.length) :
    (buildColumns ids labels kinds).map (·.id) = ids := by
  apply ids_zipWith
  · cases labels with
    | none => rfl
    | some listed => simpa using labelled listed rfl
  · cases kinds with
    | none => simp
    | some listed => exact typed listed rfl

/-- Columns are declared when some ids are listed, each with an entry in the lists beside them. -/
theorem explicitColumns_eq_ok {node : Node} {columns : List TableColumn}
    (read : explicitColumns node place = .ok (some columns)) :
    ∃ written labels kinds, readTextsOf node place "columnIds" = .ok (some written) ∧
      readTextsOf node place "columnLabels" = .ok labels ∧
      readColumnKinds node place = .ok kinds ∧ written ≠ [] ∧
      let ids := written.map Text.trim
      (∀ listed ∈ labels, listed.length = ids.length) ∧
        (∀ listed ∈ kinds, listed.length = ids.length) ∧ WellNamed ids ∧
        columns = buildColumns ids labels kinds := by
  obtain ⟨found, listed, read⟩ := bind_eq_ok.mp read
  split at read
  · split at read
    · exact absurd read refuseAt_ne_ok
    · simp [pure, Except.pure] at read
  · exact absurd read refuseAt_ne_ok
  · rename_i written some
    simp only [bind_eq_ok, pure_eq_ok, Option.some.injEq] at read
    obtain ⟨labels, readLabels, _, labelled, kinds, readKinds, _, typed, _, checked, rfl⟩ := read
    exact ⟨written, labels, kinds, listed, readLabels, readKinds, some, checkEntries_eq_ok labelled,
      checkEntries_eq_ok typed, (checkIds_eq_ok checked).1, rfl⟩

theorem wellNamed_of_explicitColumns {node : Node} {columns : List TableColumn}
    (read : explicitColumns node place = .ok (some columns)) :
    WellNamed (columns.map (·.id)) := by
  obtain ⟨_, _, _, _, _, _, _, labelled, typed, named, rfl⟩ := explicitColumns_eq_ok read
  rwa [ids_buildColumns labelled typed]

theorem explicitColumns_ne_nil {node : Node} {columns : List TableColumn}
    (read : explicitColumns node place = .ok (some columns)) : columns ≠ [] := by
  obtain ⟨written, _, _, _, _, _, some, labelled, typed, _, rfl⟩ := explicitColumns_eq_ok read
  intro none
  have ids := ids_buildColumns labelled typed
  rw [none, List.map_nil] at ids
  exact some (List.map_eq_nil_iff.mp ids.symm)

theorem isIdentifierRest_of_isDigit {c : Char} (digit : Decimal.isDigit c = true) :
    isIdentifierRest c = true := by
  simp only [Decimal.isDigit] at digit
  simp [isIdentifierRest, digit]

/-- A column that its header does not name has a name all the same. -/
theorem isIdentifier_inferredId (position : Nat) (label : String) :
    isIdentifier (inferredId position label) = true := by
  unfold inferredId
  simp only
  split
  · assumption
  · have digits : ∀ c ∈ Decimal.digitsOf position, isIdentifierRest c = true := fun c member =>
      isIdentifierRest_of_isDigit (Decimal.isDigit_of_mem_digitsOf member)
    have written : s!"col{position}".toList = 'c' :: 'o' :: 'l' :: Decimal.digitsOf position := by
      simp [Decimal.digitsOf, toString]
    rw [isIdentifier, written]
    simp only [isIdentifierChars, List.all_cons, List.all_eq_true.mpr digits]
    decide

/-- The columns that labels name from a position on, of no kind yet. -/
def columnsFrom (position : Nat) : List String → List TableColumn
  | [] => []
  | label :: rest => ⟨inferredId position label, label, .string, false⟩ :: columnsFrom (position + 1) rest

theorem inferColumns_eq_ok_iff {position : Nat} {taken labels : List String}
    {columns : List TableColumn} :
    inferColumns place position taken labels = .ok columns ↔
      columns = columnsFrom position labels ∧
        ((columnsFrom position labels).map (·.id)).Nodup ∧
          ∀ id ∈ (columnsFrom position labels).map (·.id), id ∉ taken := by
  induction labels generalizing position taken columns with
  | nil => simp [inferColumns, columnsFrom, eq_comm]
  | cons label rest ih =>
    simp only [inferColumns, ite_eq_ok, refuseAt_ne_ok, and_false, false_or, bind_eq_ok, pure_eq_ok,
      ih, columnsFrom, List.map_cons, List.nodup_cons, List.forall_mem_cons]
    constructor
    · rintro ⟨fresh, others, ⟨rfl, distinct, apart⟩, rfl⟩
      refine ⟨rfl, ⟨fun repeated => ?_, distinct⟩, by simpa using fresh, fun id member known => ?_⟩
      · exact apart _ repeated List.mem_cons_self
      · exact apart id member (List.mem_cons_of_mem _ known)
    · rintro ⟨rfl, ⟨unrepeated, distinct⟩, fresh, apart⟩
      refine ⟨by simpa using fresh, _, ⟨rfl, distinct, fun id member known => ?_⟩, rfl⟩
      rcases List.mem_cons.mp known with rfl | known
      · exact unrepeated member
      · exact apart id member known

theorem columnsFrom_eq (position : Nat) (labels : List String) :
    columnsFrom position labels = labels.mapIdx fun index label =>
      ⟨inferredId (position + index) label, label, .string, false⟩ := by
  induction labels generalizing position with
  | nil => rfl
  | cons label rest ih =>
    rw [columnsFrom, ih, List.mapIdx_cons]
    simp only [Nat.add_zero, Nat.add_assoc, Nat.add_comm 1]

theorem ids_columnsFrom (labels : List String) :
    (columnsFrom 0 labels).map (·.id) = labels.mapIdx inferredId := by
  apply List.ext_getElem?
  intro position
  simp [columnsFrom_eq, Function.comp_def]

theorem length_columnsFrom (position : Nat) (labels : List String) :
    (columnsFrom position labels).length = labels.length := by
  rw [columnsFrom_eq, List.length_mapIdx]

/-- The columns of a header are found when their names differ. -/
theorem inferColumns_header_eq_ok_iff {labels : List String} {columns : List TableColumn} :
    inferColumns place 0 [] labels = .ok columns ↔
      columns = columnsFrom 0 labels ∧ (labels.mapIdx inferredId).Nodup := by
  rw [inferColumns_eq_ok_iff, ids_columnsFrom]
  simp

theorem ids_withKinds {columns : List TableColumn} {kinds : List ColumnKind}
    (same : kinds.length = columns.length) :
    (withKinds columns kinds).map (·.id) = columns.map (·.id) := by
  unfold withKinds
  induction columns generalizing kinds with
  | nil => rfl
  | cons column rest ih =>
    cases kinds with
    | nil => simp at same
    | cons kind kinds => exact congrArg (column.id :: ·) (ih (by simpa using same))

theorem length_typeRow? {cells : List String} {width : Nat} {kinds : List ColumnKind}
    (read : typeRow? cells width = some kinds) : kinds.length = width := by
  simp only [typeRow?, Option.ite_none_right_eq_some] at read
  obtain ⟨wide, read⟩ := read
  exact (mapM_eq_some.mp read).length_eq.symm.trans wide

theorem wellNamed_of_inlineColumns {lines body : List String} {columns : List TableColumn}
    (read : inlineColumns place lines = .ok (columns, body)) : WellNamed (columns.map (·.id)) := by
  cases lines with
  | nil => exact absurd read refuseAt_ne_ok
  | cons header rest =>
    obtain ⟨inferred, readHeader, read⟩ := bind_eq_ok.mp read
    have named : WellNamed (inferred.map (·.id)) := by
      obtain ⟨same, distinct⟩ := inferColumns_header_eq_ok_iff.mp readHeader
      rw [same, ids_columnsFrom]
      refine ⟨fun id member => ?_, distinct⟩
      obtain ⟨position, below, named⟩ := List.mem_mapIdx.mp member
      rw [← named]
      exact isIdentifier_inferredId position (splitRow header)[position]
    split at read
    · exact absurd read refuseAt_ne_ok
    · split at read
      · rename_i kinds typed
        simp only [bind_eq_ok, pure_eq_ok, Prod.mk.injEq] at read
        obtain ⟨_, _, rfl, _⟩ := read
        rwa [ids_withKinds (length_typeRow? typed)]
      · simp only [bind_eq_ok, pure_eq_ok, Prod.mk.injEq] at read
        obtain ⟨_, _, rfl, _⟩ := read
        exact named

theorem ids_relabel (columns : List TableColumn) (labels : List String) :
    (relabel columns labels).map (·.id) = columns.map (·.id) := by
  induction columns generalizing labels with
  | nil => cases labels <;> rfl
  | cons column rest ih =>
    cases labels with
    | nil => rfl
    | cons label labels =>
      simp only [relabel, List.map_cons, ih]
      split <;> rfl

/-- The header of a table with declared columns changes no id. -/
theorem ids_of_declaredColumns {columns found : List TableColumn} {labelled : Bool}
    {lines body : List String}
    (read : declaredColumns place columns labelled lines = .ok (found, body)) :
    found.map (·.id) = columns.map (·.id) := by
  cases lines with
  | nil =>
    cases read
    rfl
  | cons header rest =>
    simp only [declaredColumns, bind_eq_ok, pure_eq_ok, Prod.mk.injEq] at read
    obtain ⟨_, _, rfl, _⟩ := read
    split
    · rfl
    · exact ids_relabel columns _

/-- A table has distinct column ids, and each of its rows is one of its lines. -/
theorem parseTable_eq_ok {text : Option String} {declared : Option (List TableColumn)}
    {labelled : Bool} {table : ParsedTable}
    (named : ∀ columns ∈ declared, WellNamed (columns.map (·.id)))
    (read : parseTable text declared labelled place = .ok table) :
    WellNamed (table.columns.map (·.id)) ∧
      ∃ body : List String, table.rows = body.map (parseRow table.columns) := by
  cases declared with
  | none =>
    simp only [parseTable, bind_eq_ok, pure_eq_ok] at read
    obtain ⟨⟨columns, body⟩, found, rfl⟩ := read
    exact ⟨wellNamed_of_inlineColumns found, body, rfl⟩
  | some declared =>
    simp only [parseTable, bind_eq_ok, pure_eq_ok] at read
    obtain ⟨⟨columns, body⟩, found, rfl⟩ := read
    refine ⟨?_, body, rfl⟩
    rw [ids_of_declaredColumns found]
    exact named declared rfl

theorem rowCells_eq (columns : List TableColumn) (cells : List String) :
    rowCells columns cells = columns.mapIdx fun position column =>
      (column.id, parseCell (cells[position]?.getD "") column.type) := by
  induction columns generalizing cells with
  | nil => rfl
  | cons column rest ih =>
    rw [List.mapIdx_cons]
    cases cells with
    | nil => simp [rowCells, ih]
    | cons cell more => simp [rowCells, ih]

theorem ids_rowCells (columns : List TableColumn) (cells : List String) :
    (rowCells columns cells).map (·.1) = columns.map (·.id) := by
  rw [rowCells_eq]
  exact List.ext_getElem? fun position => by simp [Function.comp_def]

theorem parseCell_ne_unanswered (text : String) (type : ColumnType) :
    parseCell text type ≠ .unanswered := by
  unfold parseCell
  split
  · simp
  · split
    · rename_i sentinel _
      cases sentinel with
      | mk kind reason => cases kind <;> simp [Sentinel.response]
    · simp

theorem ne_unanswered_of_mem_rowCells {columns : List TableColumn} {cells : List String}
    {entry : String × CellResponse} (member : entry ∈ rowCells columns cells) :
    entry.2 ≠ .unanswered := by
  rw [rowCells_eq] at member
  obtain ⟨position, below, rfl⟩ := List.mem_mapIdx.mp member
  dsimp only
  exact parseCell_ne_unanswered _ _

/-- A row that is read has a response in every column. -/
theorem exists_get?_parseRow {columns : List TableColumn} {column : TableColumn} (line : String)
    (member : column ∈ columns) :
    ∃ cell, (parseRow columns line).get? column.id = some cell ∧ cell ≠ .unanswered := by
  have listed : column.id ∈ (rowCells columns (splitRow line)).map (·.1) := by
    rw [ids_rowCells]
    exact List.mem_map_of_mem member
  obtain ⟨cell, found⟩ := Option.isSome_iff_exists.mp (Dict.contains_ofList.mpr listed)
  exact ⟨cell, found, ne_unanswered_of_mem_rowCells (Dict.mem_of_get?_ofList found)⟩

end DocForm
