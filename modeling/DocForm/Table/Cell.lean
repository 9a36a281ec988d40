import DocForm.Calendar
import DocForm.Decimal.Numeral
import DocForm.Sentinel
import DocForm.Web.Address

/-! Table cells: what a written cell holds, and whether a value fits its column. Reading
takes what it can; fitting is strict. -/

namespace DocForm

/-- The value that a text has in a column, if it has one. Texts, addresses and dates stay
texts. -/
def ColumnType.typed? (type : ColumnType) (text : String) : Option CellValue :=
  match type with
  | .number => (parseNumber? text).map .number
  | .year => (parseYear? text).map .integer
  | .string | .url | .date => none

/-- The response in a written cell. A blank cell is skipped; text that does not fit a
column of numbers or years is kept as it is. -/
def parseCell (text : String) (type : ColumnType) : CellResponse :=
  match Text.trim? text with
  | none => .skipped none
  | some bare =>
    match Sentinel.detect? bare with
    | some sentinel => sentinel.response
    | none => .answered ((type.typed? bare).getD (.text bare))

inductive Misfit where
  | number (text : String)
  | year (text : String)
  | url (text : String)
  | date (text : String)
deriving DecidableEq, Repr

def Misfit.message : Misfit → String
  | .number text => s!"'{text}' is not a valid number"
  | .year text => s!"'{text}' is not a valid year"
  | .url text => s!"'{text}' is not a valid URL"
  | .date text => s!"'{text}' is not a valid date (expected YYYY-MM-DD)"

def coerceCell (value : CellValue) : ColumnType → Except Misfit CellValue
  | .string => .ok (.text value.describe)
  | .number =>
    match value with
    | .number n => .ok (.number n)
    | .integer n => .ok (.number (Float.ofInt n))
    | .text text =>
      match parseNumber? text with
      | some n => .ok (.number n)
      | none => .error (.number text)
  | .year =>
    match value with
    | .integer n => if inYearRange n then .ok (.integer n) else .error (.year value.describe)
    | .number _ => .error (.year value.describe)
    | .text text =>
      match parseYear? text with
      | some n => .ok (.integer n)
      | none => .error (.year text)
  | .url =>
    if isHttpUrl value.describe then .ok (.text value.describe) else .error (.url value.describe)
  | .date =>
    if (parseDate? value.describe).isSome then .ok (.text value.describe)
    else .error (.date value.describe)

end DocForm
