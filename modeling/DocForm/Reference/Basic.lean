import DocForm.Identifier
import DocForm.Decimal.Digits
import DocForm.Text.Split

/-! References to parts of a form: `field`, `field.option`, `field.column` and
`field.column[row]`. A written reference with two names is read as an option. -/

namespace DocForm

inductive Reference where
  | field (fieldId : String)
  | option (fieldId optionId : String)
  | column (fieldId columnId : String)
  | cell (fieldId columnId : String) (row : Nat)
deriving DecidableEq, Repr

namespace Reference

def fieldId : Reference → String
  | .field fieldId | .option fieldId _ | .column fieldId _ | .cell fieldId _ _ => fieldId

def render : Reference → String
  | .field fieldId => fieldId
  | .option fieldId id | .column fieldId id => fieldId ++ "." ++ id
  | .cell fieldId columnId row =>
    fieldId ++ "." ++ columnId ++ "[" ++ String.ofList (Decimal.digitsOf row) ++ "]"

inductive FormatFault where
  | emptyReference
  | unbalancedBrackets
  | emptyRow
  | rowNotDigits
  | rowTooLarge
  | emptySegment
  | notIdentifier
  | rowWithoutColumn
  | tooManySegments
deriving DecidableEq, Repr

def FormatFault.message : FormatFault → String
  | .emptyReference => "empty reference"
  | .unbalancedBrackets => "unbalanced brackets"
  | .emptyRow => "empty row index"
  | .rowNotDigits => "row index must be a non-negative integer"
  | .rowTooLarge => "row index is too large"
  | .emptySegment => "empty segment"
  | .notIdentifier => "identifiers must match [a-z][a-z0-9_]*"
  | .rowWithoutColumn => "a row index needs a column"
  | .tooManySegments => "too many segments"

/-- Row indexes are below this. -/
def rowLimit : Nat := UInt64.size

def readRow (digits : List Char) : Except FormatFault Nat :=
  if digits.isEmpty then .error .emptyRow
  else if !digits.all Decimal.isDigit then .error .rowNotDigits
  else if Decimal.digitsValue digits < rowLimit then .ok (Decimal.digitsValue digits)
  else .error .rowTooLarge

def splitRow (text : List Char) : Except FormatFault (List Char × Option Nat) :=
  match [']'].isSuffixOf? text with
  | none => .ok (text, none)
  | some head =>
    match head.dropWhile (· != '[') with
    | [] => .error .unbalancedBrackets
    | _ :: digits => do .ok (head.takeWhile (· != '['), some (← readRow digits))

def readPath (path : List Char) (row : Option Nat) : Except FormatFault Reference :=
  let segments := Text.pieces '.' path
  match segments.find? fun segment => !isIdentifierChars segment with
  | some [] => .error .emptySegment
  | some _ => .error .notIdentifier
  | none =>
    match segments.map String.ofList, row with
    | [fieldId], none => .ok (.field fieldId)
    | [fieldId, optionId], none => .ok (.option fieldId optionId)
    | [fieldId, columnId], some row => .ok (.cell fieldId columnId row)
    | [_], some _ => .error .rowWithoutColumn
    | _, _ => .error .tooManySegments

def read (text : String) : Except FormatFault Reference :=
  if text.isEmpty then .error .emptyReference
  else do
    let (path, row) ← splitRow text.toList
    if path.any fun c => c == '[' || c == ']' then .error .unbalancedBrackets
    else readPath path row

end Reference

end DocForm
