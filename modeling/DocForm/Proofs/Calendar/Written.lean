import DocForm.Calendar
import DocForm.Proofs.Outcome
import DocForm.Proofs.Text.Trim

/-! How dates are written. Main statement: a text is read as a date exactly when it is one that is
written with hyphens, where the year may have a sign and white space may stand before month and
day. -/

namespace DocForm

/-- A text of decimal digits, of one at least. -/
structure IsDigits (text : String) : Prop where
  notEmpty : text ≠ ""
  decimal : ∀ c ∈ text.toList, Decimal.isDigit c = true

instance (text : String) : Decidable (IsDigits text) :=
  decidable_of_iff (text ≠ "" ∧ text.toList.all Decimal.isDigit = true)
    ⟨fun ⟨notEmpty, decimal⟩ => ⟨notEmpty, List.all_eq_true.mp decimal⟩,
      fun isDigits => ⟨isDigits.notEmpty, List.all_eq_true.mpr isDigits.decimal⟩⟩

/-- The number that a text of digits stands for. -/
def numberOf (digits : String) : Nat := Decimal.digitsValue digits.toList

/-- A year has up to four digits, or a sign and any number of them. -/
def IsSigned (sign digits : String) : Prop :=
  (sign = "" ∧ digits.length ≤ 4) ∨ sign = "+" ∨ sign = "-"

/-- The year that a sign and digits stand for. -/
def signedYear (sign digits : String) : Int :=
  if sign = "-" then -(numberOf digits : Int) else numberOf digits

/-- The parts of a written date. -/
structure WrittenDate where
  sign : String
  year : String
  beforeMonth : String
  month : String
  beforeDay : String
  day : String

namespace WrittenDate

/-- The parts in their order. -/
def text (written : WrittenDate) : String :=
  written.sign ++ written.year ++ "-" ++ (written.beforeMonth ++ written.month) ++ "-" ++
    (written.beforeDay ++ written.day)

/-- The date that is written. -/
def date (written : WrittenDate) : Date where
  year := signedYear written.sign written.year
  month := numberOf written.month
  day := numberOf written.day

/-- Month and day have up to two digits, and white space may stand before these. -/
structure Legible (written : WrittenDate) : Prop where
  signed : IsSigned written.sign written.year
  year : IsDigits written.year
  blankBeforeMonth : Text.IsBlank written.beforeMonth
  month : IsDigits written.month
  shortMonth : written.month.length ≤ 2
  blankBeforeDay : Text.IsBlank written.beforeDay
  day : IsDigits written.day
  shortDay : written.day.length ≤ 2

/-- There is neither a sign nor white space. -/
def IsPlain (written : WrittenDate) : Prop :=
  written.sign = "" ∧ written.beforeMonth = "" ∧ written.beforeDay = ""

end WrittenDate

variable {digits text : String} {most number : Nat} {cs rest : List Char} {date : Date}

theorem isBlank_of_isDigit {c : Char} (decimal : Decimal.isDigit c = true) :
    Text.isBlank c = false := by
  simp only [Decimal.isDigit, Bool.and_eq_true, decide_eq_true_eq] at decimal
  have low : 48 ≤ c.toNat := decimal.1
  have high : c.toNat ≤ 57 := decimal.2
  simp only [Text.isBlank, Bool.or_eq_false_iff, Bool.and_eq_false_iff, decide_eq_false_iff_not,
    beq_eq_false_iff_ne]
  omega

theorem IsDigits.exists_cons (isDigits : IsDigits digits) :
    ∃ first more, digits.toList = first :: more ∧ Decimal.isDigit first = true := by
  cases shape : digits.toList with
  | nil => exact absurd (String.toList_eq_nil_iff.mp shape) isDigits.notEmpty
  | cons first more => exact ⟨first, more, rfl, isDigits.decimal first (by simp [shape])⟩

theorem IsDigits.visible (isDigits : IsDigits digits) :
    ∀ c ∈ digits.toList, Text.isBlank c = false :=
  fun c member => isBlank_of_isDigit (isDigits.decimal c member)

namespace Date

/-- A number is read off the digits in front of a text. -/
theorem exists_of_takeNumber? (read : takeNumber? most cs = some (number, rest)) :
    ∃ digits, IsDigits digits ∧ digits.length ≤ most ∧ cs = digits.toList ++ rest ∧
      number = numberOf digits := by
  simp only [takeNumber?, Option.ite_none_left_eq_some, Option.some.injEq, Prod.mk.injEq] at read
  obtain ⟨notEmpty, rfl, rfl⟩ := read
  have inFront : (cs.takeWhile Decimal.isDigit).take most <+: cs :=
    (List.take_prefix most _).trans (List.takeWhile_prefix _)
  refine ⟨.ofList ((cs.takeWhile Decimal.isDigit).take most), ⟨?_, ?_⟩, ?_, ?_, ?_⟩
  · simpa [← String.toList_eq_nil_iff] using notEmpty
  · intro c member
    rw [String.toList_ofList] at member
    exact List.mem_takeWhile_imp (List.mem_of_mem_take member)
  · rw [String.length_ofList]
    exact List.length_take_le _ _
  · rw [String.toList_ofList]
    exact (List.prefix_iff_eq_append.mp inFront).symm
  · rw [numberOf, String.toList_ofList]

theorem takeNumber?_append (isDigits : IsDigits digits) (short : digits.length ≤ most)
    (stops : ∀ c ∈ rest.head?, Decimal.isDigit c = false) :
    takeNumber? most (digits.toList ++ rest) = some (numberOf digits, rest) := by
  have ends : rest.takeWhile Decimal.isDigit = [] := by
    cases rest with
    | nil => rfl
    | cons c more => simp [stops c rfl]
  have front : (digits.toList ++ rest).takeWhile Decimal.isDigit = digits.toList := by
    rw [List.takeWhile_append_of_pos isDigits.decimal, ends, List.append_nil]
  have whole : digits.toList.take most = digits.toList :=
    List.take_of_length_le (by rwa [String.length_toList])
  simp [takeNumber?, front, whole, numberOf, isDigits.notEmpty]

theorem exists_of_takePart? (read : takePart? cs = some (number, rest)) :
    ∃ blank digits, Text.IsBlank blank ∧ IsDigits digits ∧ digits.length ≤ 2 ∧
      cs = '-' :: (blank ++ digits).toList ++ rest ∧ number = numberOf digits := by
  unfold takePart? at read
  split at read
  · rename_i behind
    obtain ⟨digits, isDigits, short, shape, rfl⟩ := exists_of_takeNumber? read
    have whole : behind.takeWhile Text.isBlank ++ Text.trimStart behind = behind :=
      List.takeWhile_append_dropWhile
    refine ⟨.ofList (behind.takeWhile Text.isBlank), digits, ?_, isDigits, short, ?_, rfl⟩
    · intro c member
      exact List.mem_takeWhile_imp (by simpa using member)
    · rw [String.toList_append, String.toList_ofList, List.cons_append, List.append_assoc, ← shape,
        whole]
  · cases read

theorem takePart?_append {blank : String} (isBlank : Text.IsBlank blank)
    (isDigits : IsDigits digits) (short : digits.length ≤ 2)
    (stops : ∀ c ∈ rest.head?, Decimal.isDigit c = false) :
    takePart? ('-' :: (blank ++ digits).toList ++ rest) = some (numberOf digits, rest) := by
  obtain ⟨first, more, shape, decimal⟩ := isDigits.exists_cons
  have shown : Text.trimStart (digits.toList ++ rest) = digits.toList ++ rest := by
    rw [shape, List.cons_append, Text.trimStart_cons (isBlank_of_isDigit decimal)]
  rw [List.cons_append, takePart?, String.toList_append, List.append_assoc,
    Text.trimStart_append isBlank, shown]
  exact takeNumber?_append isDigits short stops

theorem exists_of_map_takeNumber? {year : Int} (sign : Nat → Int)
    (read : (takeNumber? most cs).map (fun found => (sign found.1, found.2)) = some (year, rest)) :
    ∃ digits, IsDigits digits ∧ digits.length ≤ most ∧ cs = digits.toList ++ rest ∧
      year = sign (numberOf digits) := by
  obtain ⟨⟨number, behind⟩, found, same⟩ := Option.map_eq_some_iff.mp read
  cases same
  obtain ⟨digits, isDigits, short, shape, rfl⟩ := exists_of_takeNumber? found
  exact ⟨digits, isDigits, short, shape, rfl⟩

theorem exists_of_takeYear? {year : Int} (bare : Text.trimStart cs = cs)
    (read : takeYear? cs = some (year, rest)) :
    ∃ sign digits, IsSigned sign digits ∧ IsDigits digits ∧ cs = (sign ++ digits).toList ++ rest ∧
      year = signedYear sign digits := by
  unfold takeYear? at read
  rw [bare] at read
  split at read
  · obtain ⟨digits, isDigits, _, rfl, rfl⟩ := exists_of_map_takeNumber? (-·) read
    exact ⟨"-", digits, .inr (.inr rfl), isDigits, by simp, by simp [signedYear]⟩
  · obtain ⟨digits, isDigits, _, rfl, rfl⟩ := exists_of_map_takeNumber? Nat.cast read
    exact ⟨"+", digits, .inr (.inl rfl), isDigits, by simp, by simp [signedYear]⟩
  · obtain ⟨digits, isDigits, short, shape, rfl⟩ := exists_of_map_takeNumber? Nat.cast read
    exact ⟨"", digits, .inl ⟨rfl, short⟩, isDigits, by simpa using shape, by simp [signedYear]⟩

theorem takeYear?_append {sign : String} (signed : IsSigned sign digits)
    (isDigits : IsDigits digits) (stops : ∀ c ∈ rest.head?, Decimal.isDigit c = false) :
    takeYear? ((sign ++ digits).toList ++ rest) = some (signedYear sign digits, rest) := by
  have long : digits.length ≤ (digits.toList ++ rest).length := by
    rw [List.length_append, String.length_toList]
    exact Nat.le_add_right _ _
  have number := takeNumber?_append isDigits long stops
  rcases signed with ⟨rfl, short⟩ | rfl | rfl
  · obtain ⟨first, more, shape, decimal⟩ := isDigits.exists_cons
    have front : digits.toList ++ rest = first :: (more ++ rest) := by
      rw [shape, List.cons_append]
    have shown : Text.trimStart (digits.toList ++ rest) = digits.toList ++ rest := by
      rw [front, Text.trimStart_cons (isBlank_of_isDigit decimal)]
    rw [String.empty_append, takeYear?, shown]
    -- The first digit is no sign.
    split
    case h_1 signFirst | h_2 signFirst =>
      rw [front] at signFirst
      cases (List.cons.inj signFirst).1
      cases decimal
    case h_3 =>
      rw [takeNumber?_append isDigits short stops]
      rfl
  · have shape : ("+" ++ digits).toList ++ rest = '+' :: (digits.toList ++ rest) := by simp
    rw [shape, takeYear?, Text.trimStart_cons (by decide)]
    simp only [number, Option.map_some]
    rfl
  · have shape : ("-" ++ digits).toList ++ rest = '-' :: (digits.toList ++ rest) := by simp
    rw [shape, takeYear?, Text.trimStart_cons (by decide)]
    simp only [number, Option.map_some]
    rfl

theorem exists_of_readParts? (bare : Text.trimStart text.toList = text.toList)
    (read : readParts? text.toList = some date) :
    ∃ written : WrittenDate, written.Legible ∧ written.text = text ∧ written.date = date := by
  simp only [readParts?, Option.bind_eq_bind, Option.bind_eq_some_iff, Prod.exists] at read
  obtain ⟨year, afterYear, yearRead, month, afterMonth, monthRead, day, rest, dayRead, last⟩ := read
  obtain ⟨ended, same⟩ := Option.ite_none_right_eq_some.mp last
  obtain rfl := List.isEmpty_iff.mp ended
  cases same
  obtain ⟨sign, yearDigits, signed, isYear, shape, rfl⟩ := exists_of_takeYear? bare yearRead
  obtain ⟨beforeMonth, monthDigits, monthBlank, isMonth, monthShort, rfl, rfl⟩ :=
    exists_of_takePart? monthRead
  obtain ⟨beforeDay, dayDigits, dayBlank, isDay, dayShort, rfl, rfl⟩ := exists_of_takePart? dayRead
  refine ⟨⟨sign, yearDigits, beforeMonth, monthDigits, beforeDay, dayDigits⟩,
    ⟨signed, isYear, monthBlank, isMonth, monthShort, dayBlank, isDay, dayShort⟩, ?_, rfl⟩
  apply String.toList_inj.mp
  rw [shape]
  simp [WrittenDate.text]

theorem readParts?_text {written : WrittenDate} (legible : written.Legible) :
    readParts? written.text.toList = some written.date := by
  have stops (parts : List Char) : ∀ c ∈ ('-' :: parts).head?, Decimal.isDigit c = false := by
    rintro c ⟨⟩
    decide
  have year := takeYear?_append legible.signed legible.year
    (stops ((written.beforeMonth ++ written.month).toList ++
      '-' :: ((written.beforeDay ++ written.day).toList ++ [])))
  have month := takePart?_append legible.blankBeforeMonth legible.month legible.shortMonth
    (stops ((written.beforeDay ++ written.day).toList ++ []))
  have day := takePart?_append legible.blankBeforeDay legible.day legible.shortDay
    (by simp : ∀ c ∈ ([] : List Char).head?, Decimal.isDigit c = false)
  have shape : written.text.toList = (written.sign ++ written.year).toList ++
      '-' :: ((written.beforeMonth ++ written.month).toList ++
        '-' :: ((written.beforeDay ++ written.day).toList ++ [])) := by
    simp [WrittenDate.text]
  rw [List.cons_append] at month day
  rw [shape, readParts?]
  simp only [year, month, day, Option.bind_eq_bind, Option.bind_some]
  rfl

end Date

/-- A text is read as a date when it is one that is written in ten bytes. -/
theorem parseDate?_eq_some_iff : parseDate? text = some date ↔
    ∃ written : WrittenDate, written.Legible ∧ written.text = Text.trim text ∧
      (Text.trim text).utf8ByteSize = 10 ∧ written.date = date ∧ date.isReal = true := by
  rw [parseDate?, Option.ite_none_right_eq_some, Option.filter_eq_some_iff]
  constructor
  · rintro ⟨size, read, real⟩
    have bare : Text.trimStart (Text.trim text).toList = (Text.trim text).toList := by
      rw [Text.toList_trim, Text.trimStart_trimmed]
    obtain ⟨written, legible, shape, same⟩ := Date.exists_of_readParts? bare read
    exact ⟨written, legible, shape, size, same, real⟩
  · rintro ⟨written, legible, shape, size, rfl, real⟩
    refine ⟨size, ?_, real⟩
    rw [← shape]
    exact Date.readParts?_text legible

end DocForm
