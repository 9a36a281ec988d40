import DocForm.Decimal.Numeral
import DocForm.Text.Blank

/-! Calendar dates and how they are read: a text of ten bytes with year, month and day
between hyphens. White space may stand before each number, and a year may have a sign. -/

namespace DocForm

/-- A day of the Gregorian calendar, carried back and forth without end. -/
structure Date where
  year : Int
  month : Nat
  day : Nat
deriving DecidableEq, Repr

namespace Date

def isLeapYear (year : Int) : Bool :=
  year % 4 = 0 && (year % 100 ≠ 0 || year % 400 = 0)

def daysIn (year : Int) : Nat → Nat
  | 2 => if isLeapYear year then 29 else 28
  | 4 | 6 | 9 | 11 => 30
  | _ => 31

def isReal (date : Date) : Bool :=
  1 ≤ date.month && date.month ≤ 12 && 1 ≤ date.day && date.day ≤ daysIn date.year date.month

def before (first second : Date) : Bool :=
  first.year < second.year ||
    (first.year = second.year && (first.month < second.month ||
      (first.month = second.month && first.day < second.day)))

/-- Between one and `most` digits at the front; more digits stay in the rest. -/
def takeNumber? (most : Nat) (cs : List Char) : Option (Nat × List Char) :=
  let digits := (cs.takeWhile Decimal.isDigit).take most
  if digits.isEmpty then none else some (Decimal.digitsValue digits, cs.drop digits.length)

/-- A year of one to four digits, or of any number of digits after a sign. -/
def takeYear? (cs : List Char) : Option (Int × List Char) :=
  match Text.trimStart cs with
  | '-' :: rest => (takeNumber? rest.length rest).map fun found => (-(found.1 : Int), found.2)
  | '+' :: rest => (takeNumber? rest.length rest).map fun found => ((found.1 : Int), found.2)
  | rest => (takeNumber? 4 rest).map fun found => ((found.1 : Int), found.2)

def takePart? : List Char → Option (Nat × List Char)
  | '-' :: rest => takeNumber? 2 (Text.trimStart rest)
  | _ => none

def readParts? (cs : List Char) : Option Date := do
  let (year, afterYear) ← takeYear? cs
  let (month, afterMonth) ← takePart? afterYear
  let (day, rest) ← takePart? afterMonth
  if rest.isEmpty then some ⟨year, month, day⟩ else none

/-- The length in bytes of a written date. -/
def textLength : Nat := 10

end Date

/-- The date that a text names, white space around it aside. -/
def parseDate? (text : String) : Option Date :=
  let bare := Text.trim text
  -- Ten bytes of any sort: signs and blanks before the numbers count among them.
  if bare.utf8ByteSize = Date.textLength then (Date.readParts? bare.toList).filter Date.isReal
  else none

end DocForm
