import DocForm.Proofs.Table.Grammar

/-! Tables written and read back. Main statement: the table read from a written one has the rows
that were written, each cell under the id of its column. -/

namespace DocForm

/-- Cells between pipes, as a line of a table: `| one | two |`. -/
def writeRow (cells : List String) : String := "| " ++ " | ".intercalate cells ++ " |"

/-- A text that a cell can hold as it is. It may be empty. -/
structure IsCell (text : String) : Prop where
  trimmed : Text.trim text = text
  unpiped : '|' ∉ text.toList
  unbroken : '\n' ∉ text.toList

instance (text : String) : Decidable (IsCell text) :=
  decidable_of_iff (Text.trim text = text ∧ '|' ∉ text.toList ∧ '\n' ∉ text.toList)
    ⟨fun ⟨trimmed, unpiped, unbroken⟩ => ⟨trimmed, unpiped, unbroken⟩,
      fun cell => ⟨cell.trimmed, cell.unpiped, cell.unbroken⟩⟩

/-- What a table is written from: labels, the rules below them, and rows, all of one width. -/
structure Sheet (width : Nat) where
  labels : List String
  rules : List String
  rows : List (List String)
  widths : ∀ row ∈ labels :: rules :: rows, row.length = width
  ruled : ∀ rule ∈ rules, IsRule rule
  cells : ∀ row ∈ labels :: rows, ∀ cell ∈ row, IsCell cell

namespace Sheet

variable {width : Nat}

/-- The lines of a table. -/
def lines (sheet : Sheet width) : List String :=
  writeRow sheet.labels :: writeRow sheet.rules :: sheet.rows.map writeRow

/-- The text of a table. -/
def write (sheet : Sheet width) : String := "\n".intercalate sheet.lines

end Sheet

/-- A row has the response of each cell under the id of its column, and nothing else. -/
structure HoldsCells (columns : List TableColumn) (cells : List String) (row : TableRow) : Prop where
  cell : ∀ (position : Nat) (column : TableColumn) (cell : String),
    columns[position]? = some column → cells[position]? = some cell →
      row.get? column.id = some (parseCell cell column.type)
  keys : ∀ id, row.contains id = true ↔ id ∈ columns.map (·.id)

variable {cells : List String} {columns : List TableColumn}

/-- A cell with a space on either side. -/
def padCell (cell : String) : String := " " ++ cell ++ " "

theorem trim_padCell (cell : String) : Text.trim (padCell cell) = Text.trim cell :=
  Text.trim_padded cell (by decide) (by decide)

/-- Spaces around each cell are spaces between the cells and at both ends. -/
theorem intercalate_padded (cell : String) (rest : List String) :
    "|".intercalate ((cell :: rest).map padCell) =
      " " ++ " | ".intercalate (cell :: rest) ++ " " := by
  induction rest generalizing cell with
  | nil => simp [padCell]
  | cons next more ih =>
    have later := ih next
    rw [List.map_cons] at later
    rw [List.map_cons, List.map_cons, String.intercalate_cons_cons, later,
      String.intercalate_cons_cons, padCell]
    exact String.toList_inj.mp (by simp)

theorem trim_writeRow (cells : List String) : Text.trim (writeRow cells) = writeRow cells := by
  have shape : (writeRow cells).toList =
      '|' :: ((" " ++ " | ".intercalate cells ++ " ").toList ++ ['|']) := by
    simp [writeRow]
  exact Text.trim_eq_self shape (by decide) (by decide)

/-- The cells of a written line are read back as they are. -/
theorem splitRow_writeRow (wide : cells ≠ []) (each : ∀ cell ∈ cells, IsCell cell) :
    splitRow (writeRow cells) = cells := by
  obtain ⟨cell, rest, rfl⟩ := List.exists_cons_of_ne_nil wide
  have shape : writeRow (cell :: rest) =
      "|" ++ ("|".intercalate ((cell :: rest).map padCell) ++ "|") := by
    rw [writeRow, intercalate_padded]
    exact String.toList_inj.mp (by simp)
  have unpiped : ∀ piece ∈ (cell :: rest).map padCell, '|' ∉ piece.toList := by
    intro piece member
    obtain ⟨cell, listed, rfl⟩ := List.mem_map.mp member
    simpa [padCell] using (each cell listed).unpiped
  have cut : Text.splitOn '|' ("|".intercalate ((cell :: rest).map padCell)) =
      (cell :: rest).map padCell :=
    Text.splitOn_intercalate unpiped (by simp)
  rw [splitRow, trim_writeRow, shape, Text.dropStart_append, Text.dropEnd_append, cut, List.map_map]
  refine (List.map_congr_left fun cell listed => ?_).trans (List.map_id _)
  exact (trim_padCell cell).trans (each cell listed).trimmed

theorem isLine_writeRow (each : ∀ cell ∈ cells, IsCell cell) : Text.IsLine (writeRow cells) where
  trimmed := trim_writeRow cells
  shown nothing := by
    have chars := congrArg String.toList nothing
    simp [writeRow] at chars
  unbroken := by
    have inside : '\n' ∉ (" | ".intercalate cells).toList :=
      Text.not_mem_intercalate (by decide) fun cell member => (each cell member).unbroken
    simpa [writeRow] using inside

theorem IsRule.isCell {rule : String} (isRule : IsRule rule) : IsCell rule where
  trimmed := Text.trim_of_visible fun c member => by
    rcases isRule.signs c member with rfl | rfl <;> decide
  unpiped member := by
    rcases isRule.signs _ member with pipe | pipe <;> cases pipe
  unbroken member := by
    rcases isRule.signs _ member with broken | broken <;> cases broken

namespace Sheet

variable {width : Nat} (sheet : Sheet width)

theorem isCell : ∀ row ∈ sheet.labels :: sheet.rules :: sheet.rows, ∀ cell ∈ row, IsCell cell := by
  obtain ⟨labels, rows⟩ := List.forall_mem_cons.mp sheet.cells
  refine List.forall_mem_cons.mpr ⟨labels, List.forall_mem_cons.mpr ⟨fun rule member => ?_, rows⟩⟩
  exact (sheet.ruled rule member).isCell

theorem splitRow_writeRow_of_mem (wide : width ≠ 0) {row : List String}
    (member : row ∈ sheet.labels :: sheet.rules :: sheet.rows) : splitRow (writeRow row) = row := by
  refine splitRow_writeRow ?_ (sheet.isCell row member)
  rintro rfl
  exact wide (sheet.widths [] member).symm

theorem lines_write {ending : String} (blank : Text.IsBlank ending) :
    Text.lines (sheet.write ++ ending) = sheet.lines := by
  rw [Text.lines_append_blank _ blank]
  refine Text.lines_intercalate fun line member => ?_
  obtain ⟨row, listed, rfl⟩ : ∃ row ∈ sheet.labels :: sheet.rules :: sheet.rows,
      writeRow row = line := List.mem_map.mp member
  exact isLine_writeRow (sheet.isCell row listed)

/-- A written table is laid out as a table with declared columns. -/
theorem layout (wide : width ≠ 0) (labelled : Bool) (columns : List TableColumn) :
    TableLayout labelled (some columns) sheet.lines
      (if labelled then columns else underHeader sheet.labels columns)
      (sheet.rows.map writeRow) := by
  have header := sheet.splitRow_writeRow_of_mem wide (List.mem_cons_self)
  have separator := sheet.splitRow_writeRow_of_mem wide
    (List.mem_cons_of_mem _ List.mem_cons_self)
  have ruled : IsSeparator (splitRow (writeRow sheet.labels)).length (writeRow sheet.rules) := by
    rw [header, IsSeparator, separator]
    refine ⟨?_, sheet.ruled⟩
    rw [sheet.widths sheet.labels (by simp), sheet.widths sheet.rules (by simp)]
  have laid : TableLayout labelled (some columns) sheet.lines
      (if labelled then columns else underHeader (splitRow (writeRow sheet.labels)) columns)
      (sheet.rows.map writeRow) := .declared ruled
  rwa [header] at laid

end Sheet

/-- The labels of the columns make no difference to a row. -/
theorem parseRow_underHeader (labels : List String) (columns : List TableColumn) :
    parseRow (underHeader labels columns) = parseRow columns := by
  funext line
  rw [parseRow, parseRow, rowCells_eq, rowCells_eq]
  refine congrArg Dict.ofList (List.ext_getElem? fun position => ?_)
  rw [underHeader, List.getElem?_mapIdx, List.getElem?_mapIdx, List.getElem?_mapIdx,
    Option.map_map]
  refine congrArg (Option.map · columns[position]?) (funext fun column => ?_)
  simp only [Function.comp_apply]
  split
  · rfl
  · split <;> rfl

/-- With distinct ids, a row holds every cell that its line has for a column. -/
theorem ReadsLine.holdsCells {line : String} {row : TableRow}
    (reads : ReadsLine columns line row) (distinct : (columns.map (·.id)).Nodup) :
    HoldsCells columns (splitRow line) row where
  cell position column cell found written := by
    obtain ⟨below, rfl⟩ := List.getElem?_eq_some_iff.mp found
    have split := List.take_append_drop position columns
    rw [List.drop_eq_getElem_cons below] at split
    rw [← split, List.map_append, List.nodup_append, List.map_cons, List.nodup_cons] at distinct
    have last := reads.cell position _ found fun later member same =>
      distinct.2.1.1 (same ▸ List.mem_map_of_mem member)
    rwa [written, Option.getD_some] at last
  keys := reads.keys

/-- A written table is read back: every row that was written, each cell under the id of its
column, and the labels of the header where no others are declared. -/
theorem reads_what_is_written (wide : columns ≠ []) (distinct : (columns.map (·.id)).Nodup)
    (sheet : Sheet columns.length) {ending : String} (blank : Text.IsBlank ending)
    (labelled : Bool) (place : Place) :
    (∃ table, parseTable (some (sheet.write ++ ending)) (some columns) labelled place = .ok table ∧
      table.columns = (if labelled then columns else underHeader sheet.labels columns) ∧
      List.Forall₂ (HoldsCells columns) sheet.rows table.rows) ∧
    ∀ row ∈ sheet.labels :: sheet.rules :: sheet.rows, splitRow (writeRow row) = row := by
  have positive : columns.length ≠ 0 := by simpa using wide
  have layout := sheet.layout positive labelled columns
  have lines : Text.lines ((some (sheet.write ++ ending)).getD "") = sheet.lines :=
    sheet.lines_write blank
  rw [← lines] at layout
  refine ⟨⟨⟨if labelled then columns else underHeader sheet.labels columns,
      (sheet.rows.map writeRow).map (parseRow columns)⟩,
    parseTable_eq_ok_iff.mpr ⟨_, layout, ?_⟩, rfl, ?_⟩, fun row member =>
      sheet.splitRow_writeRow_of_mem positive member⟩
  · dsimp only
    split
    · rfl
    · rw [parseRow_underHeader]
  · rw [List.map_map, List.forall₂_map_right_iff]
    refine List.forall₂_same.mpr fun row member => ?_
    have cut : splitRow (writeRow row) = row :=
      sheet.splitRow_writeRow_of_mem positive (by simp [member])
    have holds := (readsLine_parseRow columns (writeRow row)).holdsCells distinct
    rwa [cut] at holds

/-- Two columns, of which the second is often empty. -/
def guestColumns : List TableColumn :=
  [⟨"name", "Name", .string, true⟩, ⟨"note", "Note", .string, false⟩]

/-- A table with empty cells at the ends of its lines, and a row of nothing else. -/
def guestSheet : Sheet guestColumns.length where
  labels := ["Guest", ""]
  rules := [":--", "-"]
  rows := [["Ada", ""], ["", ""], ["", "late"]]
  widths := by decide
  ruled := by decide
  cells := by decide

theorem reads_guests :
    guestSheet.write = "| Guest |  |\n| :-- | - |\n| Ada |  |\n|  |  |\n|  | late |" ∧
    ∃ table, parseTable (some (guestSheet.write ++ "\n")) (some guestColumns) false ⟨none, none⟩ =
        .ok table ∧
      table.rows.map (·.get? "note") =
        [some (.skipped none), some (.skipped none), some (.answered (.text "late"))] := by
  have newline : Text.IsBlank "\n" := by decide
  obtain ⟨⟨table, read, _, rows⟩, _⟩ :=
    reads_what_is_written (by decide) (by decide) guestSheet newline false ⟨none, none⟩
  refine ⟨by decide, table, read, ?_⟩
  change List.Forall₂ _ [["Ada", ""], ["", ""], ["", "late"]] _ at rows
  generalize table.rows = found at rows ⊢
  obtain _ | ⟨first, _ | ⟨second, _ | ⟨third, ⟨⟩⟩⟩⟩ := rows
  have note : ∀ {cells : List String} {row : TableRow} (cell : String),
      HoldsCells guestColumns cells row → cells[1]? = some cell →
        row.get? "note" = some (parseCell cell .string) := fun cell holds written =>
    holds.cell 1 ⟨"note", "Note", .string, false⟩ cell rfl written
  have blank : parseCell "" .string = .skipped none := by rfl
  have text : parseCell "late" .string = .answered (.text "late") := by rfl
  rw [List.map_cons, List.map_cons, List.map_singleton, note "" first rfl, note "" second rfl,
    note "late" third rfl, blank, text]

end DocForm
