import DocForm.Proofs.Outcome
import DocForm.Proofs.Text.Pieces
import DocForm.Reference.Resolve

/-! Reading references. Main statement: what is written of a reference to named parts reads back
as that reference, where a column comes back as an option. -/

namespace DocForm

theorem isIdentifierRest_of_isLower {c : Char} (lower : isLower c = true) :
    isIdentifierRest c = true := by
  simp [isIdentifierRest, lower]

theorem isIdentifierRest_of_mem {cs : List Char} (identifier : isIdentifierChars cs = true)
    {c : Char} (member : c ∈ cs) : isIdentifierRest c = true := by
  cases cs with
  | nil => cases identifier
  | cons first rest =>
    simp only [isIdentifierChars, Bool.and_eq_true, List.all_eq_true] at identifier
    rcases List.mem_cons.mp member with rfl | later
    · exact isIdentifierRest_of_isLower identifier.1
    · exact identifier.2 c later

/-- A name holds none of the signs that a reference is written with. -/
theorem not_mem_of_isIdentifierChars {cs : List Char} (identifier : isIdentifierChars cs = true)
    {sign : Char} (apart : isIdentifierRest sign = false) : sign ∉ cs := by
  intro member
  simp [isIdentifierRest_of_mem identifier member] at apart

theorem ne_nil_of_isIdentifierChars {cs : List Char} (identifier : isIdentifierChars cs = true) :
    cs ≠ [] := by
  rintro rfl
  cases identifier

namespace Reference

variable {path name fieldName digits : List Char} {row : Option Nat}

theorem isIdentifierRest_dot : isIdentifierRest '.' = false := by decide

theorem isIdentifierRest_opening : isIdentifierRest '[' = false := by decide

theorem isIdentifierRest_closing : isIdentifierRest ']' = false := by decide

theorem readPath_name (identifier : isIdentifierChars name = true) :
    readPath name none = .ok (.field (String.ofList name)) := by
  have absent := not_mem_of_isIdentifierChars identifier isIdentifierRest_dot
  simp [readPath, Text.pieces_of_not_mem absent, identifier]

/-- What two names refer to, with or without a row. -/
def ofNames (fieldId id : String) : Option Nat → Reference
  | none => .option fieldId id
  | some row => .cell fieldId id row

theorem readPath_names (fieldIdentifier : isIdentifierChars fieldName = true)
    (identifier : isIdentifierChars name = true) :
    readPath (fieldName ++ '.' :: name) row =
      .ok (ofNames (String.ofList fieldName) (String.ofList name) row) := by
  have absentField := not_mem_of_isIdentifierChars fieldIdentifier isIdentifierRest_dot
  have absent := not_mem_of_isIdentifierChars identifier isIdentifierRest_dot
  have split : Text.pieces '.' (fieldName ++ '.' :: name) = [fieldName, name] := by
    rw [Text.pieces_append_cons absentField, Text.pieces_of_not_mem absent]
  cases row <;> simp [readPath, split, fieldIdentifier, identifier, ofNames]

theorem isSuffixOf?_of_not_mem {c : Char} {cs : List Char} (absent : c ∉ cs) :
    [c].isSuffixOf? cs = none := by
  apply Option.eq_none_iff_forall_not_mem.mpr
  intro head found
  have whole : head ++ [c] = cs := List.isSuffixOf?_eq_some_iff_append_eq.mp found
  exact absent (whole ▸ List.mem_append_right _ (List.mem_singleton_self c))

theorem splitRow_of_not_mem (absent : ']' ∉ path) : splitRow path = .ok (path, none) := by
  simp [splitRow, isSuffixOf?_of_not_mem absent]

theorem splitRow_bracketed (absent : '[' ∉ path) :
    splitRow (path ++ '[' :: digits ++ [']']) =
      (readRow digits).map fun row => (path, some row) := by
  have before : ∀ c ∈ path, (c != '[') = true := fun c member => by
    simpa using fun same : c = '[' => absent (same ▸ member)
  rw [splitRow, List.isSuffixOf?_eq_some_iff_append_eq.mpr rfl]
  simp only [List.dropWhile_append_of_pos before, List.takeWhile_append_of_pos before]
  cases read : readRow digits <;> simp [read, bind, Except.bind, Except.map]

theorem readRow_digitsOf {n : Nat} (small : n < rowLimit) :
    readRow (Decimal.digitsOf n) = .ok n := by
  have digits : (Decimal.digitsOf n).all Decimal.isDigit = true :=
    List.all_eq_true.mpr fun _ => Decimal.isDigit_of_mem_digitsOf
  have some : Decimal.digitsOf n ≠ [] := Nat.toDigits_ne_nil
  simp [readRow, digits, some, Decimal.digitsValue_digitsOf, small]

/-- All names of a reference are identifiers. -/
def IsNamed : Reference → Prop
  | .field fieldId => isIdentifier fieldId = true
  | .option fieldId id | .column fieldId id | .cell fieldId id _ =>
    isIdentifier fieldId = true ∧ isIdentifier id = true

/-- A row index is a machine word, as every index into a list in memory is. -/
def HasWordRow : Reference → Prop
  | .cell _ _ row => row < rowLimit
  | _ => True

/-- A reference as its text tells it: nothing there sets a column apart from an option. -/
def untyped : Reference → Reference
  | .column fieldId columnId => .option fieldId columnId
  | reference => reference

theorem read_of_splitRow {text : String} {cs path : List Char} (written : text.toList = cs)
    (some : cs ≠ []) (split : splitRow cs = .ok (path, row)) (noOpening : '[' ∉ path)
    (noClosing : ']' ∉ path) : read text = readPath path row := by
  subst written
  have nonempty : text.isEmpty = false := by
    cases empty : text.isEmpty with
    | false => rfl
    | true => exact absurd (by simpa using empty) some
  have noBrackets : path.any (fun c => c == '[' || c == ']') = false := by
    rw [List.any_eq_false]
    intro c member
    have opening : c ≠ '[' := fun same => noOpening (same ▸ member)
    have closing : c ≠ ']' := fun same => noClosing (same ▸ member)
    simp [opening, closing]
  simp [read, nonempty, split, noBrackets, bind, Except.bind]

theorem not_mem_path {fieldId id : String} (fieldIdentifier : isIdentifier fieldId = true)
    (identifier : isIdentifier id = true) (sign : Char) (apart : isIdentifierRest sign = false)
    (noDot : sign ≠ '.') : sign ∉ fieldId.toList ++ '.' :: id.toList := by
  simp [not_mem_of_isIdentifierChars fieldIdentifier apart,
    not_mem_of_isIdentifierChars identifier apart, noDot]

theorem read_field {fieldId : String} (identifier : isIdentifier fieldId = true) :
    read fieldId = .ok (.field fieldId) := by
  have noOpening := not_mem_of_isIdentifierChars identifier isIdentifierRest_opening
  have noClosing := not_mem_of_isIdentifierChars identifier isIdentifierRest_closing
  rw [read_of_splitRow rfl (ne_nil_of_isIdentifierChars identifier) (splitRow_of_not_mem noClosing)
    noOpening noClosing, readPath_name identifier, String.ofList_toList]

theorem read_option {fieldId id : String} (fieldIdentifier : isIdentifier fieldId = true)
    (identifier : isIdentifier id = true) :
    read (fieldId ++ "." ++ id) = .ok (.option fieldId id) := by
  have written : (fieldId ++ "." ++ id).toList = fieldId.toList ++ '.' :: id.toList := by simp
  have noOpening := not_mem_path fieldIdentifier identifier '[' isIdentifierRest_opening (by decide)
  have noClosing := not_mem_path fieldIdentifier identifier ']' isIdentifierRest_closing (by decide)
  rw [read_of_splitRow written (by simp) (splitRow_of_not_mem noClosing) noOpening noClosing,
    readPath_names fieldIdentifier identifier]
  simp [ofNames]

theorem read_cell {fieldId id digits : String} {n : Nat}
    (fieldIdentifier : isIdentifier fieldId = true) (identifier : isIdentifier id = true)
    (indexed : readRow digits.toList = .ok n) :
    read (fieldId ++ "." ++ id ++ "[" ++ digits ++ "]") = .ok (.cell fieldId id n) := by
  have written : (fieldId ++ "." ++ id ++ "[" ++ digits ++ "]").toList =
      (fieldId.toList ++ '.' :: id.toList) ++ '[' :: digits.toList ++ [']'] := by simp
  have noOpening := not_mem_path fieldIdentifier identifier '[' isIdentifierRest_opening (by decide)
  have noClosing := not_mem_path fieldIdentifier identifier ']' isIdentifierRest_closing (by decide)
  have split : splitRow ((fieldId.toList ++ '.' :: id.toList) ++ '[' :: digits.toList ++ [']']) =
      .ok (fieldId.toList ++ '.' :: id.toList, some n) := by
    rw [splitRow_bracketed noOpening, indexed]
    rfl
  rw [read_of_splitRow written (by simp) split noOpening noClosing,
    readPath_names fieldIdentifier identifier]
  simp [ofNames]

/-- The text of a reference reads back as that reference. -/
theorem read_render {reference : Reference} (named : reference.IsNamed)
    (word : reference.HasWordRow) : read reference.render = .ok reference.untyped := by
  cases reference with
  | field fieldId => exact read_field named
  | option fieldId id | column fieldId id => exact read_option named.1 named.2
  | cell fieldId columnId row =>
    apply read_cell named.1 named.2
    rw [String.toList_ofList]
    exact readRow_digitsOf word

end Reference

end DocForm
