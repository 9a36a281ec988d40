import DocForm.Proofs.Outcome
import DocForm.Proofs.Text.Pieces
import DocForm.Table.Text

/-! The lines of a table that are no rows. Main statements: which lines are separators and which are
rows of types, told from their cells, and that no line is both. -/

namespace DocForm

/-- Dashes, with a colon at either end or none: `:?-+:?`. -/
def IsRule (cell : String) : Prop :=
  ∃ left dashes right : String, cell = left ++ dashes ++ right ∧ (left = "" ∨ left = ":") ∧
    (right = "" ∨ right = ":") ∧ dashes ≠ "" ∧ ∀ c ∈ dashes.toList, c = '-'

/-- The name of a type, alone or with `required` behind a comma that may stand in white space. -/
inductive NamesKind : String → ColumnKind → Prop where
  | optional (type : ColumnType) : NamesKind type.name (type, false)
  | required (type : ColumnType) {before after : String} (blankBefore : Text.IsBlank before)
      (blankAfter : Text.IsBlank after) :
      NamesKind (type.name ++ before ++ "," ++ after ++ "required") (type, true)

/-- A line of so many rules. -/
def IsSeparator (width : Nat) (line : String) : Prop :=
  (splitRow line).length = width ∧ ∀ cell ∈ splitRow line, IsRule cell

/-- A line that names so many kinds. -/
def IsTypeRow (width : Nat) (line : String) (kinds : List ColumnKind) : Prop :=
  (splitRow line).length = width ∧ List.Forall₂ NamesKind (splitRow line) kinds

variable {cell line : String} {width : Nat} {kind : ColumnKind} {kinds : List ColumnKind}

theorem splitRow_ne_nil (line : String) : splitRow line ≠ [] := by
  rw [splitRow, Ne, List.map_eq_nil_iff]
  exact Text.splitOn_ne_nil _

theorem trim_of_mem_splitRow (member : cell ∈ splitRow line) : Text.trim cell = cell := by
  obtain ⟨piece, _, rfl⟩ := List.mem_map.mp member
  exact Text.trim_trim piece

theorem isSeparatorCell_eq_true_iff : isSeparatorCell cell = true ↔
    Text.dropEnd ":" (Text.dropStart ":" cell) ≠ "" ∧
      ∀ c ∈ (Text.dropEnd ":" (Text.dropStart ":" cell)).toList, c = '-' := by
  simp [isSeparatorCell]

/-- Taking the colons off a rule leaves its dashes. -/
theorem dropEnd_dropStart_rule {left dashes right : String} (isLeft : left = "" ∨ left = ":")
    (isRight : right = "" ∨ right = ":") (some : dashes ≠ "")
    (dashed : ∀ c ∈ dashes.toList, c = '-') :
    Text.dropEnd ":" (Text.dropStart ":" (left ++ dashes ++ right)) = dashes := by
  have notFirst : ∀ rest, dashes ++ right ≠ ":" ++ rest := by
    intro rest same
    cases shape : dashes.toList with
    | nil => exact some (String.toList_eq_nil_iff.mp shape)
    | cons first more =>
      have dash := dashed first (by simp [shape])
      have chars := congrArg String.toList same
      simp [shape, dash] at chars
  have notLast : ∀ rest, dashes ≠ rest ++ ":" := by
    rintro rest rfl
    have dash := dashed ':' (by simp)
    cases dash
  have start : Text.dropStart ":" (left ++ dashes ++ right) = dashes ++ right := by
    rcases isLeft with rfl | rfl
    · rw [String.empty_append, Text.dropStart_of_ne notFirst]
    · rw [String.append_assoc, Text.dropStart_append]
  rcases isRight with rfl | rfl
  · rw [start, String.append_empty, Text.dropEnd_of_ne notLast]
  · rw [start, Text.dropEnd_append]

theorem isSeparatorCell_iff : isSeparatorCell cell = true ↔ IsRule cell := by
  rw [isSeparatorCell_eq_true_iff]
  constructor
  · rintro ⟨some, dashed⟩
    obtain ⟨left, isLeft, whole⟩ := Text.eq_dropStart ":" cell
    obtain ⟨right, isRight, rest⟩ := Text.eq_dropEnd ":" (Text.dropStart ":" cell)
    refine ⟨left, _, right, ?_, isLeft, isRight, some, dashed⟩
    rw [String.append_assoc, ← rest, ← whole]
  · rintro ⟨left, dashes, right, rfl, isLeft, isRight, some, dashed⟩
    rw [dropEnd_dropStart_rule isLeft isRight some dashed]
    exact ⟨some, dashed⟩

instance (cell : String) : Decidable (IsRule cell) := decidable_of_iff _ isSeparatorCell_iff

theorem isSeparatorRow_iff :
    isSeparatorRow (splitRow line) width = true ↔ IsSeparator width line := by
  simp [isSeparatorRow, IsSeparator, isSeparatorCell_iff]

theorem read?_name (type : ColumnType) : Vocabulary.read? type.name = some type := by
  cases type <;> rfl

theorem read?_eq_some_iff {text : String} {type : ColumnType} :
    Vocabulary.read? text = some type ↔ text = type.name := by
  constructor
  · intro found
    have same := List.find?_some found
    exact (beq_iff_eq.mp same).symm
  · rintro rfl
    exact read?_name type

theorem comma_not_mem_of_isBlank {text : String} (blank : Text.IsBlank text) :
    ',' ∉ text.toList := by
  intro member
  have white := blank ',' member
  simp [Text.isBlank] at white

/-- The name of a type begins and ends with a letter, and holds no comma. -/
theorem shape_of_name (type : ColumnType) : ∃ first inside last,
    type.name.toList = first :: (inside ++ [last]) ∧ isLower first = true ∧
      isLower last = true ∧ ',' ∉ type.name.toList := by
  cases type with
  | string => exact ⟨'s', "trin".toList, 'g', by decide⟩
  | number => exact ⟨'n', "umbe".toList, 'r', by decide⟩
  | url => exact ⟨'u', "r".toList, 'l', by decide⟩
  | date => exact ⟨'d', "at".toList, 'e', by decide⟩
  | year => exact ⟨'y', "ea".toList, 'r', by decide⟩

theorem isBlank_of_isLower {c : Char} (lower : isLower c = true) : Text.isBlank c = false := by
  simp only [isLower, Bool.and_eq_true, decide_eq_true_eq] at lower
  have low : 97 ≤ c.toNat := lower.1
  have high : c.toNat ≤ 122 := lower.2
  simp only [Text.isBlank, Bool.or_eq_false_iff, Bool.and_eq_false_iff, decide_eq_false_iff_not,
    beq_eq_false_iff_ne]
  omega

theorem trim_name (type : ColumnType) : Text.trim type.name = type.name := by
  obtain ⟨first, inside, last, shape, lowerFirst, lowerLast, _⟩ := shape_of_name type
  exact Text.trim_eq_self shape (isBlank_of_isLower lowerFirst) (isBlank_of_isLower lowerLast)

/-- A type and `required` around a comma begin and end with a letter. -/
theorem trim_required (type : ColumnType) (between : String) :
    Text.trim (type.name ++ between ++ "required") = type.name ++ between ++ "required" := by
  obtain ⟨first, inside, last, shape, lowerFirst, _⟩ := shape_of_name type
  have whole : (type.name ++ between ++ "required").toList =
      first :: ((inside ++ [last] ++ between.toList ++ "require".toList) ++ ['d']) := by
    simp [shape]
  exact Text.trim_eq_self whole (isBlank_of_isLower lowerFirst) (by decide)

theorem typeCell?_of_namesKind (names : NamesKind cell kind) : typeCell? cell = some kind := by
  cases names with
  | optional type =>
    obtain ⟨_, _, _, _, _, _, noComma⟩ := shape_of_name type
    have parts : (Text.splitOn ',' type.name).map Text.trim = [type.name] := by
      rw [Text.splitOn_of_not_mem noComma, List.map_singleton, trim_name]
    simp [typeCell?, parts, read?_name]
  | @required type before after blankBefore blankAfter =>
    obtain ⟨_, _, _, _, _, _, noComma⟩ := shape_of_name type
    have noCommaFirst : ',' ∉ (type.name ++ before).toList := by
      rw [String.toList_append, List.mem_append, not_or]
      exact ⟨noComma, comma_not_mem_of_isBlank blankBefore⟩
    have noCommaSecond : ',' ∉ (after ++ "required").toList := by
      rw [String.toList_append, List.mem_append, not_or]
      exact ⟨comma_not_mem_of_isBlank blankAfter, by decide⟩
    have cut : Text.splitOn ',' (type.name ++ before ++ "," ++ (after ++ "required")) =
        [type.name ++ before, after ++ "required"] :=
      Text.splitOn_pair noCommaFirst noCommaSecond
    have bare : Text.trim (after ++ "required") = "required" := by
      have padded := Text.trim_padded "required" blankAfter Text.isBlank_empty
      rw [String.append_empty] at padded
      rw [padded]
      decide
    have parts : (Text.splitOn ',' (type.name ++ before ++ "," ++ (after ++ "required"))).map
        Text.trim = [type.name, "required"] := by
      rw [cut, List.map_cons, List.map_singleton, Text.trim_append _ blankBefore, trim_name, bare]
    rw [String.append_assoc, typeCell?, parts]
    simp [read?_name]

theorem namesKind_of_typeCell? (trimmed : Text.trim cell = cell)
    (read : typeCell? cell = some kind) : NamesKind cell kind := by
  have joined := Text.intercalate_splitOn ',' cell
  unfold typeCell? at read
  split at read
  case h_1 name parts =>
    obtain ⟨type, found, rfl⟩ := Option.map_eq_some_iff.mp read
    obtain ⟨piece, cut, rfl⟩ := List.map_eq_singleton_iff.mp parts
    rw [cut, String.intercalate_singleton] at joined
    rw [joined, trimmed] at found
    rw [read?_eq_some_iff.mp found]
    exact .optional type
  case h_2 name parts =>
    obtain ⟨type, found, rfl⟩ := Option.map_eq_some_iff.mp read
    obtain ⟨first, rest, cut, named, parts⟩ := List.map_eq_cons_iff.mp parts
    obtain ⟨second, rfl, demanded⟩ := List.map_eq_singleton_iff.mp parts
    rw [cut] at joined
    -- The blanks outside are none, since the cell is trimmed; those at the comma may stand.
    obtain ⟨before, between, blankBefore, blankBetween, shapeFirst⟩ := Text.eq_padded_trim first
    obtain ⟨also, after, blankAlso, blankAfter, shapeSecond⟩ := Text.eq_padded_trim second
    rw [named, read?_eq_some_iff.mp found] at shapeFirst
    rw [demanded] at shapeSecond
    have whole : cell = before ++ (type.name ++ (between ++ "," ++ also) ++ "required") ++ after := by
      rw [← joined, shapeFirst, shapeSecond]
      exact String.toList_inj.mp (by simp)
    have kept : cell = type.name ++ (between ++ "," ++ also) ++ "required" := by
      rw [← trimmed, whole, Text.trim_padded _ blankBefore blankAfter, trim_required]
    rw [kept]
    have names := NamesKind.required type blankBetween blankAlso
    simpa only [String.append_assoc] using names
  case h_3 => cases read

/-- A line is read as a row of types when it names so many kinds. -/
theorem typeRow?_eq_some_iff : typeRow? (splitRow line) width = some kinds ↔
    IsTypeRow width line kinds := by
  rw [typeRow?, Option.ite_none_right_eq_some, mapM_eq_some, IsTypeRow]
  refine and_congr_right fun _ => ⟨fun reads => ?_, fun named => ?_⟩
  · have each : ∀ cell ∈ splitRow line, Text.trim cell = cell := fun _ => trim_of_mem_splitRow
    exact ((List.forall₂_and_left _ _).mpr ⟨each, reads⟩).imp fun _ _ ⟨trimmed, read⟩ =>
      namesKind_of_typeCell? trimmed read
  · exact named.imp fun _ _ => typeCell?_of_namesKind

theorem IsRule.signs (rule : IsRule cell) : ∀ c ∈ cell.toList, c = ':' ∨ c = '-' := by
  obtain ⟨left, dashes, right, rfl, isLeft, isRight, _, dashed⟩ := rule
  intro c member
  simp only [String.toList_append, List.mem_append] at member
  rcases member with (inLeft | inDashes) | inRight
  · rcases isLeft with rfl | rfl
    · cases inLeft
    · exact .inl (by simpa using inLeft)
  · exact .inr (dashed c inDashes)
  · rcases isRight with rfl | rfl
    · cases inRight
    · exact .inl (by simpa using inRight)

theorem NamesKind.exists_letter (names : NamesKind cell kind) :
    ∃ c ∈ cell.toList, isLower c = true := by
  cases names with
  | optional type =>
    obtain ⟨first, _, _, shape, lower, _⟩ := shape_of_name type
    exact ⟨first, by simp [shape], lower⟩
  | required type =>
    obtain ⟨first, _, _, shape, lower, _⟩ := shape_of_name type
    exact ⟨first, by simp [shape], lower⟩

theorem IsSeparator.not_isTypeRow (ruled : IsSeparator width line) :
    ¬ IsTypeRow width line kinds := by
  rintro ⟨_, named⟩
  cases cells : splitRow line with
  | nil => exact splitRow_ne_nil line cells
  | cons cell rest =>
    rw [cells] at named
    cases named with
    | cons names _ =>
      obtain ⟨c, member, lower⟩ := names.exists_letter
      rcases (ruled.2 cell (by simp [cells])).signs c member with rfl | rfl
      · exact absurd lower (by decide)
      · exact absurd lower (by decide)

end DocForm
