import DocForm.Proofs.Calendar.Day
import DocForm.Proofs.Calendar.Written
import Mathlib.Data.String.Basic

/-! ISO dates. Main statement: a text is read as a date exactly when it is an ISO date or a looser
one of as many bytes, with a sign or with white space inside, and no text is both. -/

namespace DocForm

open Std.Time

/-- Four digits, a hyphen, two digits, a hyphen and two digits, which are the date of a day. -/
def IsIsoDate (text : String) : Prop :=
  ∃ year month day : String,
    (IsDigits year ∧ year.length = 4) ∧ (IsDigits month ∧ month.length = 2) ∧
      (IsDigits day ∧ day.length = 2) ∧ text = year ++ "-" ++ month ++ "-" ++ day ∧
        ∃ named : PlainDate, Date.ofDay named = ⟨numberOf year, numberOf month, numberOf day⟩

/-- Ten bytes with the date of a day, and with a sign or with white space inside. -/
def IsLooseDate (text : String) : Prop :=
  ∃ written : WrittenDate, written.Legible ∧ ¬ written.IsPlain ∧ written.text = text ∧
    text.utf8ByteSize = 10 ∧ ∃ named : PlainDate, Date.ofDay named = written.date

variable {digits text : String} {written : WrittenDate}

theorem utf8Size_of_isDigit {c : Char} (decimal : Decimal.isDigit c = true) : c.utf8Size = 1 := by
  simp only [Decimal.isDigit, Bool.and_eq_true, decide_eq_true_eq] at decimal
  have high : c.toNat ≤ 57 := decimal.2
  exact Char.utf8Size_eq_one_iff.mpr (UInt32.le_iff_toNat_le.mpr (Nat.le_trans high (by decide)))

/-- Every digit is one byte. -/
theorem IsDigits.utf8ByteSize_eq (isDigits : IsDigits digits) :
    digits.utf8ByteSize = digits.length := by
  have counted (cs : List Char) (decimal : ∀ c ∈ cs, Decimal.isDigit c = true) :
      String.utf8Len cs = cs.length := by
    induction cs with
    | nil => rfl
    | cons c rest ih =>
      obtain ⟨first, others⟩ := List.forall_mem_cons.mp decimal
      rw [String.utf8Len_cons, ih others, utf8Size_of_isDigit first, List.length_cons]
  rw [← String.utf8Len_toList, counted _ isDigits.decimal, String.length_toList]

/-- Without a sign and without white space there are ten bytes only when there are as many digits as
may be. -/
theorem isIsoDate_of_isPlain (legible : written.Legible) (plain : written.IsPlain)
    (size : written.text.utf8ByteSize = 10)
    (real : ∃ named : PlainDate, Date.ofDay named = written.date) : IsIsoDate written.text := by
  obtain ⟨sign, year, beforeMonth, month, beforeDay, day⟩ := written
  obtain ⟨rfl, rfl, rfl⟩ := plain
  have shortYear : year.length ≤ 4 := by simpa [IsSigned] using legible.signed
  have counted : year.length + 1 + month.length + 1 + day.length = 10 := by
    have hyphen : ("-" : String).utf8ByteSize = 1 := rfl
    simpa only [WrittenDate.text, String.empty_append, String.utf8ByteSize_append, hyphen,
      legible.year.utf8ByteSize_eq, legible.month.utf8ByteSize_eq, legible.day.utf8ByteSize_eq]
      using size
  have shortMonth : month.length ≤ 2 := legible.shortMonth
  have shortDay : day.length ≤ 2 := legible.shortDay
  refine ⟨year, month, day, ⟨legible.year, ?_⟩, ⟨legible.month, ?_⟩, ⟨legible.day, ?_⟩, ?_, real⟩
  · omega
  · omega
  · omega
  · simp only [WrittenDate.text, String.empty_append]

theorem IsIsoDate.exists_written (iso : IsIsoDate text) :
    ∃ written : WrittenDate, written.Legible ∧ written.text = text ∧ text.utf8ByteSize = 10 ∧
      ∃ named : PlainDate, Date.ofDay named = written.date := by
  obtain ⟨year, month, day, ⟨isYear, fourDigits⟩, ⟨isMonth, twoDigits⟩, ⟨isDay, twoMore⟩, rfl,
    real⟩ := iso
  refine ⟨⟨"", year, "", month, "", day⟩, ⟨.inl ⟨rfl, fourDigits.le⟩, isYear, Text.isBlank_empty,
    isMonth, twoDigits.le, Text.isBlank_empty, isDay, twoMore.le⟩, ?_, ?_, real⟩
  · simp only [WrittenDate.text, String.empty_append]
  · have hyphen : ("-" : String).utf8ByteSize = 1 := rfl
    simp only [String.utf8ByteSize_append, hyphen, isYear.utf8ByteSize_eq, isMonth.utf8ByteSize_eq,
      isDay.utf8ByteSize_eq, fourDigits, twoDigits, twoMore]

theorem IsIsoDate.exists_cons (iso : IsIsoDate text) :
    ∃ first more, text.toList = first :: more ∧ Decimal.isDigit first = true := by
  obtain ⟨year, month, day, ⟨isYear, _⟩, _, _, rfl, _⟩ := iso
  obtain ⟨first, more, shape, decimal⟩ := isYear.exists_cons
  refine ⟨first, more ++ ("-" ++ month ++ "-" ++ day).toList, ?_, decimal⟩
  simp [shape]

theorem IsIsoDate.visible (iso : IsIsoDate text) : ∀ c ∈ text.toList, Text.isBlank c = false := by
  obtain ⟨year, month, day, ⟨isYear, _⟩, ⟨isMonth, _⟩, ⟨isDay, _⟩, rfl, _⟩ := iso
  have hyphen : ∀ c ∈ ("-" : String).toList, Text.isBlank c = false := by
    intro c member
    obtain rfl : c = '-' := by simpa using member
    decide
  simp only [String.toList_append, List.forall_mem_append]
  exact ⟨⟨⟨⟨isYear.visible, hyphen⟩, isMonth.visible⟩, hyphen⟩, isDay.visible⟩

/-- A written date that is an ISO date has no sign and no white space. -/
theorem IsIsoDate.isPlain (iso : IsIsoDate written.text) (legible : written.Legible) :
    written.IsPlain := by
  have visible := iso.visible
  simp only [WrittenDate.text, String.toList_append, List.forall_mem_append] at visible
  obtain ⟨⟨⟨_, beforeMonth, _⟩, _⟩, beforeDay, _⟩ := visible
  refine ⟨?_, legible.blankBeforeMonth.eq_empty beforeMonth,
    legible.blankBeforeDay.eq_empty beforeDay⟩
  obtain ⟨first, more, shape, decimal⟩ := iso.exists_cons
  rcases legible.signed with ⟨noSign, _⟩ | signed | signed
  · exact noSign
  all_goals
    simp only [WrittenDate.text, signed, String.toList_append] at shape
    cases (List.cons.inj shape).1
    cases decimal

theorem IsIsoDate.not_isLooseDate (iso : IsIsoDate text) : ¬ IsLooseDate text := by
  rintro ⟨written, legible, notPlain, rfl, _⟩
  exact notPlain (iso.isPlain legible)

/-- The texts that are read as dates. -/
theorem isSome_parseDate?_iff : (parseDate? text).isSome = true ↔
    IsIsoDate (Text.trim text) ∨ IsLooseDate (Text.trim text) := by
  rw [Option.isSome_iff_exists]
  constructor
  · rintro ⟨date, read⟩
    obtain ⟨written, legible, shape, size, rfl, real⟩ := parseDate?_eq_some_iff.mp read
    have named := Date.isReal_iff_exists_day.mp real
    by_cases plain : written.IsPlain
    · left
      rw [← shape] at size ⊢
      exact isIsoDate_of_isPlain legible plain size named
    · exact .inr ⟨written, legible, plain, shape, size, named⟩
  · intro dated
    obtain ⟨written, legible, shape, size, named⟩ : ∃ written : WrittenDate, written.Legible ∧
        written.text = Text.trim text ∧ (Text.trim text).utf8ByteSize = 10 ∧
          ∃ named : PlainDate, Date.ofDay named = written.date := by
      rcases dated with iso | ⟨written, legible, _, rest⟩
      · exact iso.exists_written
      · exact ⟨written, legible, rest⟩
    have real := Date.isReal_iff_exists_day.mpr named
    exact ⟨written.date, parseDate?_eq_some_iff.mpr ⟨written, legible, shape, size, rfl, real⟩⟩

end DocForm
