import DocForm.Decimal.Binary
import DocForm.Decimal.Digits
import DocForm.Text.Blank

/-! Reading the numbers that people type: decimals with an optional point and exponent,
and whole years. -/

namespace DocForm.Decimal

structure Numeral where
  negative : Bool
  whole : List Char
  fraction : List Char
  exponent : Int
deriving DecidableEq, Repr

/-- A sign taken off the front; a plus changes nothing. -/
def takeSign : List Char → Bool × List Char
  | '-' :: rest => (true, rest)
  | '+' :: rest => (false, rest)
  | rest => (false, rest)

def takeDigits (cs : List Char) : List Char × List Char :=
  (cs.takeWhile isDigit, cs.dropWhile isDigit)

def readInteger? (cs : List Char) : Option Int :=
  let (negative, digits) := takeSign cs
  if digits.isEmpty || !digits.all isDigit then none
  else
    let value : Int := digitsValue digits
    some (if negative then -value else value)

/-- Digits with an optional point among, before or after them, then an optional
exponent. -/
def Numeral.read? (cs : List Char) : Option Numeral :=
  let (negative, unsigned) := takeSign cs
  let (whole, afterWhole) := takeDigits unsigned
  let (fraction, afterFraction) := match afterWhole with
    | '.' :: rest => takeDigits rest
    | rest => ([], rest)
  if whole.isEmpty && fraction.isEmpty then none
  else
    match afterFraction with
    | [] => some ⟨negative, whole, fraction, 0⟩
    | mark :: rest =>
      if mark = 'e' || mark = 'E' then
        (readInteger? rest).map fun exponent => ⟨negative, whole, fraction, exponent⟩
      else none

def Numeral.toFloat (x : Numeral) : Float :=
  nearestDecimal x.negative (digitsValue (x.whole ++ x.fraction)) (x.exponent - x.fraction.length)

end DocForm.Decimal

namespace DocForm

/-- The finite number that a text stands for, white space around it aside. -/
def parseNumber? (text : String) : Option Float :=
  ((Decimal.Numeral.read? (Text.trimmed text.toList)).map (·.toFloat)).filter (·.isFinite)

/-- Years are 32-bit integers. -/
def yearMin : Int := -2147483648

def yearMax : Int := 2147483647

def inYearRange (year : Int) : Bool := yearMin ≤ year && year ≤ yearMax

def parseYear? (text : String) : Option Int :=
  (Decimal.readInteger? (Text.trimmed text.toList)).filter inYearRange

end DocForm
