import DocForm.Proofs.Sentinel.Typed
import DocForm.Table.Cell
import Mathlib.Algebra.Group.Int.Defs

/-! Cells of a table. Reading a cell takes what it can, fitting it is strict. Main statement: the two
agree. A column keeps as text what does not fit it, and a value that was fitted once is fitted again
without a change. -/

namespace DocForm

namespace ColumnType

/-- The values that a column holds. Years are 32-bit integers. -/
inductive Holds : ColumnType → CellValue → Prop where
  | string (text : String) : Holds .string (.text text)
  | number (n : Float) : Holds .number (.number n)
  | url (text : String) : Holds .url (.text text)
  | date (text : String) : Holds .date (.text text)
  | year {n : Int} (lower : -2 ^ 31 ≤ n) (upper : n < 2 ^ 31) : Holds .year (.integer n)

/-- The values of the column are read out of texts and are no texts themselves. -/
def isNumeric : ColumnType → Bool
  | .number | .year => true
  | .string | .url | .date => false

end ColumnType

variable {type : ColumnType} {value kept : CellValue} {text : String}

theorem coerceCell_url_eq_ok_iff : coerceCell value .url = .ok kept ↔
    isHttpUrl value.describe = true ∧ .text value.describe = kept := by
  simp only [coerceCell, ite_eq_ok, Except.ok.injEq, reduceCtorEq, and_false, or_false]

theorem coerceCell_date_eq_ok_iff : coerceCell value .date = .ok kept ↔
    (parseDate? value.describe).isSome = true ∧ .text value.describe = kept := by
  simp only [coerceCell, ite_eq_ok, Except.ok.injEq, reduceCtorEq, and_false, or_false]

theorem coerceCell_integer_eq_ok_iff {n : Int} : coerceCell (.integer n) .year = .ok kept ↔
    inYearRange n = true ∧ .integer n = kept := by
  simp only [coerceCell, ite_eq_ok, Except.ok.injEq, reduceCtorEq, and_false, or_false]

theorem inYearRange_iff {n : Int} : inYearRange n = true ↔ -2 ^ 31 ≤ n ∧ n < 2 ^ 31 := by
  rw [inYearRange, Bool.and_eq_true, decide_eq_true_eq, decide_eq_true_eq, yearMin, yearMax]
  omega

theorem ColumnType.holds_of_inYearRange {n : Int} (year : inYearRange n = true) :
    ColumnType.year.Holds (.integer n) := by
  obtain ⟨lower, upper⟩ := inYearRange_iff.mp year
  exact .year lower upper

/-- What fits a column is brought into the form of the column. -/
theorem holds_of_coerceCell (fits : coerceCell value type = .ok kept) : type.Holds kept := by
  cases type with
  | string =>
    cases fits
    exact .string _
  | number =>
    cases value with
    | integer n | number n =>
      cases fits
      exact .number _
    | text text =>
      simp only [coerceCell] at fits
      split at fits
      · cases fits
        exact .number _
      · cases fits
  | url =>
    obtain ⟨_, rfl⟩ := coerceCell_url_eq_ok_iff.mp fits
    exact .url _
  | date =>
    obtain ⟨_, rfl⟩ := coerceCell_date_eq_ok_iff.mp fits
    exact .date _
  | year =>
    cases value with
    | integer n =>
      obtain ⟨year, rfl⟩ := coerceCell_integer_eq_ok_iff.mp fits
      exact ColumnType.holds_of_inYearRange year
    | number n => cases fits
    | text text =>
      simp only [coerceCell] at fits
      split at fits
      · rename_i n read
        cases fits
        exact ColumnType.holds_of_inYearRange (Option.filter_eq_some_iff.mp read).2
      · cases fits

/-- Addresses and dates are looked at again; what passed once passes again. -/
theorem coerceCell_of_coerceCell (fits : coerceCell value type = .ok kept) :
    coerceCell kept type = .ok kept := by
  have held := holds_of_coerceCell fits
  cases held with
  | string text | number n => rfl
  | url text =>
    obtain ⟨accepted, same⟩ := coerceCell_url_eq_ok_iff.mp fits
    cases same
    exact coerceCell_url_eq_ok_iff.mpr ⟨accepted, rfl⟩
  | date text =>
    obtain ⟨accepted, same⟩ := coerceCell_date_eq_ok_iff.mp fits
    cases same
    exact coerceCell_date_eq_ok_iff.mpr ⟨accepted, rfl⟩
  | year lower upper =>
    exact coerceCell_integer_eq_ok_iff.mpr ⟨inYearRange_iff.mpr ⟨lower, upper⟩, rfl⟩

theorem ColumnType.Holds.ne_text (held : type.Holds value) (numeric : type.isNumeric = true) :
    value ≠ .text text := by
  rintro rfl
  cases held <;> cases numeric

/-- Columns of texts leave a text as it is. -/
theorem eq_of_coerceCell_text (plain : type.isNumeric = false)
    (fits : coerceCell (.text text) type = .ok kept) : kept = .text text := by
  cases type with
  | string => exact (Except.ok.inj fits).symm
  | url => exact (coerceCell_url_eq_ok_iff.mp fits).2.symm
  | date => exact (coerceCell_date_eq_ok_iff.mp fits).2.symm
  | number | year => cases plain

theorem coerceCell_text_getD (plain : type.isNumeric = false) :
    (coerceCell (.text text) type).toOption.getD (.text text) = .text text := by
  cases fits : coerceCell (.text text) type with
  | ok kept => exact eq_of_coerceCell_text plain fits
  | error misfit => rfl

/-- Reading takes the value that fits, and the text when there is none. -/
theorem typed?_getD (type : ColumnType) (text : String) :
    (type.typed? text).getD (.text text) =
      (coerceCell (.text text) type).toOption.getD (.text text) := by
  cases type with
  | string | url | date => exact (coerceCell_text_getD rfl).symm
  | number =>
    simp only [ColumnType.typed?, coerceCell]
    cases parseNumber? text <;> rfl
  | year =>
    simp only [ColumnType.typed?, coerceCell]
    cases parseYear? text <;> rfl

theorem parseCell_of_blank (blank : Text.IsBlank text) : parseCell text type = .skipped none := by
  rw [parseCell, Text.trim?_eq_none_iff.mpr blank]

theorem trim?_of_shown (shown : ¬ Text.IsBlank text) : Text.trim? text = some (Text.trim text) := by
  cases found : Text.trim? text with
  | none => exact absurd (Text.trim?_eq_none_iff.mp found) shown
  | some bare => rw [Text.eq_trim_of_trim? found]

theorem parseCell_of_detect? {sentinel : Sentinel} (seen : Sentinel.detect? text = some sentinel) :
    parseCell text type = sentinel.response := by
  have shown : ¬ Text.IsBlank text := by
    intro blank
    rw [Sentinel.detect?_of_trim?_eq_none (Text.trim?_eq_none_iff.mpr blank)] at seen
    cases seen
  simp only [parseCell, trim?_of_shown shown, Sentinel.detect?_trim, seen]

theorem parseCell_of_shown (shown : ¬ Text.IsBlank text) (bare : Sentinel.detect? text = none) :
    parseCell text type = .answered
      ((coerceCell (.text (Text.trim text)) type).toOption.getD (.text (Text.trim text))) := by
  simp only [parseCell, trim?_of_shown shown, Sentinel.detect?_trim, bare, typed?_getD]

/-- A year has no point. -/
example : parseCell " 20.24 " .year = .answered (.text "20.24") := by decide

/-- What a column makes of a text that is an answer. -/
structure ColumnType.Takes (type : ColumnType) (text : String) (value : CellValue) : Prop where
  /-- A number or a year that is left as a text does not fit, and nothing else fails to. -/
  misfit : type.isNumeric = true →
    ((∃ left, value = .text left) ↔ ∃ misfit, coerceCell value type = .error misfit)
  /-- A number or a year that is read is the one that the text stands for, and fits as it is. -/
  fitted : type.isNumeric = true → (∀ left, value ≠ .text left) →
    coerceCell (.text (Text.trim text)) type = .ok value ∧ coerceCell value type = .ok value
  /-- A text is left as it stands, less the white space around it. -/
  trimmed : ∀ left, value = .text left → left = Text.trim text
  /-- Other columns leave every text. -/
  untyped : type.isNumeric = false → value = .text (Text.trim text)

theorem takes_of_fits (fits : coerceCell (.text (Text.trim text)) type = .ok kept) :
    type.Takes text kept := by
  have held := holds_of_coerceCell fits
  have again := coerceCell_of_coerceCell fits
  exact {
    misfit := fun numeric => by
      constructor
      · rintro ⟨left, isText⟩
        exact absurd isText (held.ne_text numeric)
      · rintro ⟨misfit, refused⟩
        rw [again] at refused
        cases refused
    fitted := fun _ _ => ⟨fits, again⟩
    trimmed := fun left isText => by
      cases numeric : type.isNumeric with
      | true => exact absurd isText (held.ne_text numeric)
      | false =>
        rw [eq_of_coerceCell_text numeric fits] at isText
        exact (CellValue.text.inj isText).symm
    untyped := fun plain => eq_of_coerceCell_text plain fits }

theorem takes_of_misfit {misfit : Misfit}
    (refused : coerceCell (.text (Text.trim text)) type = .error misfit) :
    type.Takes text (.text (Text.trim text)) where
  misfit _ := ⟨fun _ => ⟨misfit, refused⟩, fun _ => ⟨_, rfl⟩⟩
  fitted _ noText := absurd rfl (noText _)
  trimmed _ isText := (CellValue.text.inj isText).symm
  untyped _ := rfl

/-- Reading and fitting the cells of a column agree with each other. -/
structure ColumnType.Coherent (type : ColumnType) : Prop where
  blank : ∀ text, Text.IsBlank text → parseCell text type = .skipped none
  /-- A sentinel is honoured in every spelling. -/
  sentinel : ∀ text sentinel, Sentinel.detect? text = some sentinel →
    parseCell text type = sentinel.response
  answered : ∀ text, ¬ Text.IsBlank text → Sentinel.detect? text = none →
    ∃ value, parseCell text type = .answered value ∧ type.Takes text value
  /-- What fits is fitted into the form of the column, once and for all. -/
  fitted : ∀ value kept, coerceCell value type = .ok kept →
    coerceCell kept type = .ok kept ∧ type.Holds kept

/-- In every column of numbers or years, what reading leaves as text is what fitting refuses. -/
theorem coherent_columns (type : ColumnType) : type.Coherent where
  blank _ := parseCell_of_blank
  sentinel _ _ := parseCell_of_detect?
  answered text shown bare := by
    refine ⟨_, parseCell_of_shown shown bare, ?_⟩
    cases fits : coerceCell (.text (Text.trim text)) type with
    | ok kept => exact takes_of_fits fits
    | error misfit => exact takes_of_misfit fits
  fitted _ _ fits := ⟨coerceCell_of_coerceCell fits, holds_of_coerceCell fits⟩

end DocForm
