import DocForm.Proofs.Lookup
import DocForm.Proofs.Validation.Code

/-! The report on a table. Main statement: it says what is wrong with the number of rows, then lists
every faulty cell once, row by row and in the order of the columns, and nothing else. -/

namespace DocForm

/-- What can be wrong with a cell. -/
inductive CellFault where
  | missing
  | empty
  | mismatch (misfit : Misfit)
deriving DecidableEq, Repr

namespace CellFault

/-- The code of issues with such a cell. -/
def code : CellFault → IssueCode
  | .missing => .cellMissing
  | .empty => .cellEmpty
  | .mismatch _ => .cellTypeMismatch

/-- A fault in words, with the cell that it is in. -/
def message (row : Nat) (columnId : String) : CellFault → String
  | .missing => s!"Row {row} has no cell for column '{columnId}'"
  | .empty => s!"Row {row}, column '{columnId}' must be answered, skipped or aborted"
  | .mismatch misfit =>
    let reason := misfit.message
    s!"Row {row}, column '{columnId}': {reason}"

end CellFault

namespace TableColumn

/-- What is wrong with the cell that a row has in the column. -/
inductive HasFault (column : TableColumn) (cells : TableRow) : CellFault → Prop where
  | missing (absent : cells.get? column.id = none) : HasFault column cells .missing
  | empty (held : cells.get? column.id = some .unanswered) : HasFault column cells .empty
  | mismatch {value : CellValue} {misfit : Misfit}
      (held : cells.get? column.id = some (.answered value))
      (refused : coerceCell value column.type = .error misfit) :
      HasFault column cells (.mismatch misfit)

/-- The cell that a row has in the column is in order. -/
inductive Passes (column : TableColumn) (cells : TableRow) : Prop where
  | skipped {reason : Option String} (held : cells.get? column.id = some (.skipped reason))
  | aborted {reason : Option String} (held : cells.get? column.id = some (.aborted reason))
  | answered {value kept : CellValue} (held : cells.get? column.id = some (.answered value))
      (fits : coerceCell value column.type = .ok kept)

/-- The fault of the cell that a row has in the column, if it has one. -/
def fault? (column : TableColumn) (cells : TableRow) : Option CellFault :=
  match cells.get? column.id with
  | none => some .missing
  | some .unanswered => some .empty
  | some (.answered value) =>
    match coerceCell value column.type with
    | .ok _ => none
    | .error misfit => some (.mismatch misfit)
  | some (.skipped _) | some (.aborted _) => none

end TableColumn

variable {column : TableColumn} {columns : List TableColumn} {cells : TableRow}
  {rows : List TableRow} {fault : CellFault} {fieldId : String} {required : Bool}
  {limits : TableLimits}

theorem fault?_eq_some_iff : column.fault? cells = some fault ↔ column.HasFault cells fault := by
  constructor
  · intro found
    unfold TableColumn.fault? at found
    split at found
    case h_1 absent =>
      cases found
      exact .missing absent
    case h_2 held =>
      cases found
      exact .empty held
    case h_3 held =>
      split at found
      · cases found
      · rename_i refused
        cases found
        exact .mismatch held refused
    case h_4 | h_5 => cases found
  · rintro (absent | held | ⟨held, refused⟩)
    · simp only [TableColumn.fault?, absent]
    · simp only [TableColumn.fault?, held]
    · simp only [TableColumn.fault?, held, refused]

theorem fault?_eq_none_iff : column.fault? cells = none ↔ column.Passes cells := by
  constructor
  · intro found
    unfold TableColumn.fault? at found
    split at found
    case h_1 | h_2 => cases found
    case h_3 held =>
      split at found
      · rename_i fits
        exact .answered held fits
      · cases found
    case h_4 held => exact .skipped held
    case h_5 held => exact .aborted held
  · rintro (held | held | ⟨held, fits⟩)
    · simp only [TableColumn.fault?, held]
    · simp only [TableColumn.fault?, held]
    · simp only [TableColumn.fault?, held, fits]

/-- A cell that something is wrong with, by its row and its column. -/
structure FaultyCell where
  row : Nat
  columnId : String
  fault : CellFault
deriving DecidableEq, Repr

namespace FaultyCell

/-- The cell so many rows further down. -/
def below (faulty : FaultyCell) (count : Nat) : FaultyCell :=
  { faulty with row := count + faulty.row }

/-- What a cell is called in a field. -/
def reference (fieldId : String) (faulty : FaultyCell) : Reference :=
  .cell fieldId faulty.columnId faulty.row

/-- The issue with a cell. -/
def issue (fieldId : String) (faulty : FaultyCell) : Issue :=
  ⟨faulty.fault.code, .error, faulty.fault.message faulty.row faulty.columnId,
    faulty.reference fieldId⟩

/-- One cell comes before another: in an earlier row, or in an earlier column of the same row. -/
def Precedes (columnIds : List String) (first later : FaultyCell) : Prop :=
  first.row < later.row ∨ first.row = later.row ∧
    columnIds.idxOf first.columnId < columnIds.idxOf later.columnId

end FaultyCell

/-- The faulty cells of a row. -/
def faultsOfRow (columns : List TableColumn) (cells : TableRow) (row : Nat) : List FaultyCell :=
  columns.filterMap fun column => (column.fault? cells).map (⟨row, column.id, ·⟩)

/-- The faulty cells of a table, row by row. -/
def faultyCells (columns : List TableColumn) (rows : List TableRow) : List FaultyCell :=
  rows.zipIdx.flatMap fun (cells, row) => faultsOfRow columns cells row

variable {faulty : FaultyCell}

/-- A cell is reported when it is faulty, and as what it is. -/
theorem checkCell_eq (row : Nat) : checkCell fieldId row cells column =
    ((column.fault? cells).map fun fault =>
      FaultyCell.issue fieldId ⟨row, column.id, fault⟩).toList := by
  simp only [checkCell, TableColumn.fault?]
  cases cells.get? column.id with
  | none => rfl
  | some cell =>
    cases cell with
    | unanswered | skipped reason | aborted reason => rfl
    | answered value =>
      dsimp only
      cases coerceCell value column.type <;> rfl

theorem checkRows_eq (start : Nat) : checkRows fieldId columns start rows =
    ((rows.zipIdx start).flatMap fun (cells, row) => faultsOfRow columns cells row).map
      (FaultyCell.issue fieldId) := by
  induction rows generalizing start with
  | nil => rfl
  | cons cells rest ih =>
    have here : columns.flatMap (checkCell fieldId start cells) =
        (faultsOfRow columns cells start).map (FaultyCell.issue fieldId) := by
      rw [faultsOfRow, List.map_filterMap, List.filterMap_eq_flatMap_toList]
      exact List.flatMap_congr fun column _ => by rw [checkCell_eq, Option.map_map]; rfl
    rw [checkRows, ih, here, List.zipIdx_cons, List.flatMap_cons, List.map_append]

theorem mem_faultsOfRow_iff {row : Nat} : faulty ∈ faultsOfRow columns cells row ↔
    faulty.row = row ∧ ∃ column ∈ columns, column.id = faulty.columnId ∧
      column.HasFault cells faulty.fault := by
  obtain ⟨place, columnId, fault⟩ := faulty
  simp only [faultsOfRow, List.mem_filterMap, Option.map_eq_some_iff, fault?_eq_some_iff,
    FaultyCell.mk.injEq]
  constructor
  · rintro ⟨column, member, fault, found, rfl, rfl, rfl⟩
    exact ⟨rfl, column, member, rfl, found⟩
  · rintro ⟨rfl, column, member, rfl, found⟩
    exact ⟨column, member, fault, found, rfl, rfl, rfl⟩

theorem mem_faultyCells_iff : faulty ∈ faultyCells columns rows ↔
    ∃ cells, rows[faulty.row]? = some cells ∧ ∃ column ∈ columns,
      column.id = faulty.columnId ∧ column.HasFault cells faulty.fault := by
  simp only [faultyCells, List.mem_flatMap, Prod.exists, List.mem_zipIdx_iff_getElem?,
    mem_faultsOfRow_iff]
  constructor
  · rintro ⟨cells, row, held, rfl, found⟩
    exact ⟨cells, held, found⟩
  · rintro ⟨cells, held, found⟩
    exact ⟨cells, faulty.row, held, rfl, found⟩

theorem faultyCells_eq_nil_iff : faultyCells columns rows = [] ↔
    ∀ cells ∈ rows, ∀ column ∈ columns, column.Passes cells := by
  have rowsOf : rows.zipIdx.map Prod.fst = rows := List.zipIdx_map_fst 0 rows
  conv_rhs => rw [← rowsOf]
  simp only [faultyCells, faultsOfRow, List.flatMap_eq_nil_iff, List.filterMap_eq_nil_iff,
    Option.map_eq_none_iff, fault?_eq_none_iff, List.forall_mem_map]

/-- In a list without repetitions everything comes at its own place. -/
theorem pairwise_idxOf {ids : List String} (distinct : ids.Nodup) :
    ids.Pairwise fun first later => ids.idxOf first < ids.idxOf later := by
  rw [List.pairwise_iff_getElem]
  intro i j inside alsoInside before
  rwa [distinct.idxOf_getElem, distinct.idxOf_getElem]

theorem pairwise_faultsOfRow (distinct : (columns.map (·.id)).Nodup) (row : Nat) :
    (faultsOfRow columns cells row).Pairwise (FaultyCell.Precedes (columns.map (·.id))) := by
  refine List.pairwise_filterMap.mpr ((List.pairwise_map.mp (pairwise_idxOf distinct)).imp ?_)
  intro first later before one isOne other isOther
  obtain ⟨_, _, rfl⟩ := Option.map_eq_some_iff.mp isOne
  obtain ⟨_, _, rfl⟩ := Option.map_eq_some_iff.mp isOther
  exact .inr ⟨rfl, before⟩

/-- Faulty cells are listed row by row, those of a row in the order of the columns. -/
theorem pairwise_faultyCells (distinct : (columns.map (·.id)).Nodup) :
    (faultyCells columns rows).Pairwise (FaultyCell.Precedes (columns.map (·.id))) := by
  refine List.pairwise_flatMap.mpr ⟨fun place _ => pairwise_faultsOfRow distinct place.2, ?_⟩
  refine (pairwise_zipIdx rows).imp fun before one isOne other isOther => .inl ?_
  rwa [(mem_faultsOfRow_iff.mp isOne).1, (mem_faultsOfRow_iff.mp isOther).1]

theorem FaultyCell.Precedes.reference_ne {ids : List String} {other : FaultyCell}
    (before : Precedes ids faulty other) : faulty.reference fieldId ≠ other.reference fieldId := by
  intro same
  obtain ⟨-, sameColumn, sameRow⟩ := Reference.cell.inj same
  rcases before with earlier | ⟨-, earlier⟩
  · rw [sameRow] at earlier
    exact Nat.lt_irrefl _ earlier
  · rw [sameColumn] at earlier
    exact Nat.lt_irrefl _ earlier

theorem faultsOfRow_add (count row : Nat) : faultsOfRow columns cells (count + row) =
    (faultsOfRow columns cells row).map (·.below count) := by
  rw [faultsOfRow, faultsOfRow, List.map_filterMap]
  simp only [Option.map_map]
  rfl

/-- Under other rows the faulty cells of a table stay the same, so many rows further down. -/
theorem faultyCells_append (upper lower : List TableRow) :
    faultyCells columns (upper ++ lower) =
      faultyCells columns upper ++ (faultyCells columns lower).map (·.below upper.length) := by
  rw [faultyCells, List.zipIdx_append, List.flatMap_append, faultyCells, faultyCells, Nat.zero_add,
    List.zipIdx_eq_map_add (l := lower) (i := upper.length), List.flatMap_map, List.map_flatMap]
  simp only [faultsOfRow_add]

/-- How many rows a table needs: as many as it declares, or else one when it is required. -/
def TableLimits.rowsNeeded (limits : TableLimits) (required : Bool) : Nat :=
  limits.minRows.getD (if required then 1 else 0)

/-- What is wrong with a number of rows. -/
def countFaults (required : Bool) (limits : TableLimits) (count : Nat) : List IssueCode :=
  (if count < limits.rowsNeeded required then [.minRowsNotMet] else []) ++
    (if limits.maxRows.any (· < count) then [.maxRowsExceeded] else [])

theorem codesOf_checkRowCount (fieldId : String) (required : Bool) (limits : TableLimits)
    (count : Nat) :
    codesOf (checkRowCount fieldId required limits count) = countFaults required limits count := by
  rw [checkRowCount, codesOf_append, countFaults]
  congr 1
  · cases declared : limits.minRows with
    | none => cases required <;> simp [TableLimits.leastRows?, TableLimits.rowsNeeded, declared]
    | some least => simp [TableLimits.leastRows?, TableLimits.rowsNeeded, declared]
  · cases limits.maxRows with
    | none => rfl
    | some most => simp

theorem countFaults_eq_nil_iff {count : Nat} : countFaults required limits count = [] ↔
    limits.rowsNeeded required ≤ count ∧ ∀ most ∈ limits.maxRows, count ≤ most := by
  cases most : limits.maxRows <;> simp [countFaults, most]

/-- The issues with a table are exact. -/
structure Reports (fieldId : String) (required : Bool) (limits : TableLimits)
    (rows : List TableRow) (issues : List Issue) : Prop where
  /-- Nothing is reported when there are so many rows as there may be and all cells are in order. -/
  silent : issues = [] ↔
    (limits.rowsNeeded required ≤ rows.length ∧ ∀ most ∈ limits.maxRows, rows.length ≤ most) ∧
      ∀ cells ∈ rows, ∀ column ∈ limits.columns, column.Passes cells
  /-- The issues with the number of rows come first, at most one for each bound. -/
  layout : ∃ counted,
    issues = counted ++ (faultyCells limits.columns rows).map (FaultyCell.issue fieldId) ∧
      codesOf counted = countFaults required limits rows.length ∧
        ∀ issue ∈ counted, issue.reference = .field fieldId
  /-- All cells in declared columns that something is wrong with are listed, and no others. -/
  listed : ∀ faulty, faulty ∈ faultyCells limits.columns rows ↔
    ∃ cells, rows[faulty.row]? = some cells ∧ ∃ column ∈ limits.columns,
      column.id = faulty.columnId ∧ column.HasFault cells faulty.fault
  ordered : (faultyCells limits.columns rows).Pairwise (FaultyCell.Precedes limits.columnIds)
  /-- No cell is reported twice. -/
  once : ∀ faulty ∈ faultyCells limits.columns rows,
    (issues.map (·.reference)).count (faulty.reference fieldId) = 1
  declared : ∀ columnId row,
    .cell fieldId columnId row ∈ issues.map (·.reference) → columnId ∈ limits.columnIds
  /-- Rows below others are reported as they would be alone, but for their place. -/
  stacked : ∀ upper lower, rows = upper ++ lower → faultyCells limits.columns rows =
    faultyCells limits.columns upper ++ (faultyCells limits.columns lower).map (·.below upper.length)

theorem validateTable_eq (rows : List TableRow) : validateTable fieldId required limits rows =
    checkRowCount fieldId required limits rows.length ++
      (faultyCells limits.columns rows).map (FaultyCell.issue fieldId) := by
  rw [validateTable, checkRows_eq]
  rfl

/-- The references of a report are those of the issues with the row count, which name the field, and
those of the faulty cells. -/
theorem references_validateTable (rows : List TableRow) :
    (validateTable fieldId required limits rows).map (·.reference) =
      (checkRowCount fieldId required limits rows.length).map (·.reference) ++
        (faultyCells limits.columns rows).map (FaultyCell.reference fieldId) := by
  rw [validateTable_eq, List.map_append, List.map_map]
  rfl

theorem cell_not_mem_checkRowCount {columnId : String} {row count : Nat} :
    .cell fieldId columnId row ∉
      (checkRowCount fieldId required limits count).map (·.reference) := by
  intro member
  obtain ⟨issue, found, refers⟩ := List.mem_map.mp member
  rw [(isLimit_checkRowCount issue found).reference] at refers
  cases refers

theorem validateTable_eq_nil_iff (rows : List TableRow) :
    validateTable fieldId required limits rows = [] ↔
      (limits.rowsNeeded required ≤ rows.length ∧ ∀ most ∈ limits.maxRows, rows.length ≤ most) ∧
        ∀ cells ∈ rows, ∀ column ∈ limits.columns, column.Passes cells := by
  rw [validateTable_eq, List.append_eq_nil_iff, List.map_eq_nil_iff, faultyCells_eq_nil_iff,
    ← countFaults_eq_nil_iff, ← codesOf_checkRowCount fieldId, codesOf, List.map_eq_nil_iff]

theorem count_reference (distinct : limits.columnIds.Nodup)
    (member : faulty ∈ faultyCells limits.columns rows) :
    ((validateTable fieldId required limits rows).map (·.reference)).count
      (faulty.reference fieldId) = 1 := by
  have apart : ((faultyCells limits.columns rows).map (FaultyCell.reference fieldId)).Nodup :=
    List.pairwise_map.mpr ((pairwise_faultyCells distinct).imp FaultyCell.Precedes.reference_ne)
  have notCounted :
      ((checkRowCount fieldId required limits rows.length).map (·.reference)).count
        (.cell fieldId faulty.columnId faulty.row) = 0 :=
    List.count_eq_zero.mpr cell_not_mem_checkRowCount
  rw [references_validateTable, List.count_append, FaultyCell.reference, notCounted, Nat.zero_add]
  exact List.count_eq_one_of_mem apart (List.mem_map_of_mem member)

theorem columnId_mem_of_reported {columnId : String} {row : Nat}
    (member : .cell fieldId columnId row ∈
      (validateTable fieldId required limits rows).map (·.reference)) :
    columnId ∈ limits.columnIds := by
  rw [references_validateTable] at member
  rcases List.mem_append.mp member with counted | faulty
  · exact absurd counted cell_not_mem_checkRowCount
  · obtain ⟨faulty, found, refers⟩ := List.mem_map.mp faulty
    obtain ⟨-, rfl, -⟩ := Reference.cell.inj refers
    obtain ⟨_, _, column, present, named, _⟩ := mem_faultyCells_iff.mp found
    rw [← named]
    exact List.mem_map_of_mem present

/-- The check of a table reports its faults, each of them once and in order, and nothing else. -/
theorem reports_validateTable (fieldId : String) (required : Bool) {limits : TableLimits}
    (distinct : limits.columnIds.Nodup) (rows : List TableRow) :
    Reports fieldId required limits rows (validateTable fieldId required limits rows) where
  silent := validateTable_eq_nil_iff rows
  layout := ⟨_, validateTable_eq rows, codesOf_checkRowCount fieldId required limits rows.length,
    fun issue member => (isLimit_checkRowCount issue member).reference⟩
  listed _ := mem_faultyCells_iff
  ordered := pairwise_faultyCells distinct
  once _ := count_reference distinct
  declared _ _ := columnId_mem_of_reported
  stacked := by
    rintro upper lower rfl
    exact faultyCells_append upper lower

/-- A table of people with their years of birth, of whom there may be three. -/
def pioneers : TableLimits :=
  ⟨[⟨"name", "Name", .string, true⟩, ⟨"born", "Born", .year, false⟩], none, some 3⟩

/-- The second row has no cell for the year, and a cell for a column that nobody declared. -/
theorem reports_pioneers :
    let rows : List TableRow :=
      [.ofList [("name", .answered (.text "Ada")), ("born", .answered (.text "long ago"))],
        .ofList [("name", .unanswered), ("died", .unanswered)],
        .ofList [("name", .skipped none), ("born", .answered (.integer 1906))]]
    let issues := validateTable "pioneers" true pioneers rows
    pioneers.columnIds.Nodup ∧ Reports "pioneers" true pioneers rows issues ∧
      faultyCells pioneers.columns rows =
        [⟨0, "born", .mismatch (.year "long ago")⟩, ⟨1, "name", .empty⟩, ⟨1, "born", .missing⟩] := by
  intro rows issues
  have distinct : pioneers.columnIds.Nodup := by decide
  exact ⟨distinct, reports_validateTable "pioneers" true distinct rows, by decide⟩

end DocForm
