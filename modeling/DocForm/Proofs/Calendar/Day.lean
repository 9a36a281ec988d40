import DocForm.Calendar
import Mathlib.Tactic.IntervalCases

/-! Days of the calendar. Main statement: a date is real exactly when the calendar of the standard
library has a day of that year, month and number. -/

namespace DocForm.Date

open Std.Time

/-- The year, the month and the number of a day. -/
def ofDay (day : PlainDate) : Date :=
  ⟨day.year.toInt, day.month.val.toNat, day.day.val.toNat⟩

theorem isLeap_eq (year : Year.Offset) : year.isLeap = isLeapYear year.toInt := by
  have tmod_eq_zero_iff (divisor : Int) :
      year.toInt.tmod divisor = 0 ↔ year.toInt % divisor = 0 := by
    rw [← Int.dvd_iff_tmod_eq_zero, Int.dvd_iff_emod_eq_zero]
  simp [Year.Offset.isLeap, isLeapYear, tmod_eq_zero_iff]

/-- The months are as long in one calendar as in the other. -/
theorem days_eq (year : Year.Offset) (month : Month.Ordinal) :
    (Month.Ordinal.days year.isLeap month).val = daysIn year.toInt month.val.toNat := by
  obtain ⟨number, lower, upper⟩ := month
  cases leap : year.isLeap with
  | true =>
    have leapYear : isLeapYear year.toInt = true := (isLeap_eq year).symm.trans leap
    interval_cases number <;> simp [daysIn, leapYear] <;> rfl
  | false =>
    have commonYear : isLeapYear year.toInt = false := (isLeap_eq year).symm.trans leap
    interval_cases number <;> simp [daysIn, commonYear] <;> rfl

theorem daysIn_le (year : Int) (month : Nat) : daysIn year month ≤ 31 := by
  unfold daysIn
  split
  · split <;> decide
  all_goals decide

theorem isReal_iff {date : Date} : date.isReal = true ↔
    (1 ≤ date.month ∧ date.month ≤ 12) ∧ 1 ≤ date.day ∧ date.day ≤ daysIn date.year date.month := by
  simp [isReal, and_assoc]

/-- A date is real when it is the date of a day. -/
theorem isReal_iff_exists_day {date : Date} :
    date.isReal = true ↔ ∃ day : PlainDate, ofDay day = date := by
  rw [isReal_iff]
  constructor
  · rintro ⟨⟨firstMonth, lastMonth⟩, firstDay, lastDay⟩
    have days := daysIn_le date.year date.month
    let year : Year.Offset := date.year
    let month : Month.Ordinal := ⟨date.month, by omega, by omega⟩
    let number : Day.Ordinal := ⟨date.day, by omega, by omega⟩
    have valid : year.Valid month number := by
      show (date.day : Int) ≤ (Month.Ordinal.days year.isLeap month).val
      rw [days_eq]
      exact Int.ofNat_le.mpr lastDay
    exact ⟨⟨year, month, number, valid⟩, rfl⟩
  · rintro ⟨⟨year, month, number, valid⟩, rfl⟩
    have inMonth : number.val ≤ (Month.Ordinal.days year.isLeap month).val := valid
    rw [days_eq] at inMonth
    obtain ⟨firstMonth, lastMonth⟩ := month.property
    obtain ⟨firstDay, _⟩ := number.property
    simp only [ofDay]
    omega

end DocForm.Date
