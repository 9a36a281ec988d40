import DocForm.Decimal.Digits
import DocForm.Web.Domain

/-! The host of an address: a number of the newer or the older protocol, or a domain name. -/

namespace DocForm.Web

open Unicode

def escapedByte? (high low : UInt8) : Option UInt8 := do
  return UInt8.ofNat
    (16 * (← hexDigit? (Char.ofNat high.toNat)) + (← hexDigit? (Char.ofNat low.toNat)))

def percentDecode : List UInt8 → List UInt8
  | byte :: high :: low :: after =>
    match if byte == 0x25 then escapedByte? high low else none with
    | some decoded => decoded :: percentDecode after
    | none => byte :: percentDecode (high :: low :: after)
  | bytes => bytes

def hostText? (cs : List Char) : Option (List Char) :=
  (String.fromUTF8? ⟨(percentDecode (String.ofList cs).toUTF8.toList).toArray⟩).map String.toList

/-- One of the four parts of an address of the older protocol, when written within one of
the newer. -/
def isPlainByte (cs : List Char) : Bool :=
  !cs.isEmpty && cs.all Decimal.isDigit && (cs.length == 1 || cs.head? != some '0') &&
    Decimal.digitsValue cs ≤ 255

/-- Groups of up to four hexadecimal digits between colons, eight in all. One double colon
stands for as many groups as are missing, and may stand for none; the last two groups may be
written as four bytes. The fuel is the length of the text. -/
def isGroups (fuel count : Nat) (shortened : Bool) (cs : List Char) : Bool :=
  match fuel, cs with
  | _, [] => shortened || count == 8
  | 0, _ => false
  | fuel + 1, c :: rest =>
    if count == 8 then false
    -- The second half of a double colon, which may occur once.
    else if c == ':' then !shortened && isGroups fuel (count + 1) true rest
    else
      let digits := ((c :: rest).takeWhile fun c => (hexDigit? c).isSome).take 4
      match (c :: rest).drop digits.length with
      | [] => isGroups fuel (count + 1) shortened []
      | ':' :: after =>
        !digits.isEmpty && !after.isEmpty && isGroups fuel (count + 1) shortened after
      | '.' :: _ =>
        let bytes := Text.pieces '.' (c :: rest)
        !digits.isEmpty && count ≤ 6 && bytes.length == 4 && bytes.all isPlainByte &&
          (shortened || count == 6)
      | _ => false

def isNewerAddress (cs : List Char) : Bool :=
  match cs with
  | ':' :: ':' :: rest => isGroups rest.length 1 true rest
  | ':' :: _ => false
  | cs => 2 ≤ cs.length && isGroups cs.length 0 false cs

/-- A number in decimal, in octal with a leading zero, or in hexadecimal with `0x`. -/
def hostNumber? (cs : List Char) : Option Nat :=
  let hexadecimal (digits : List Char) : Option Nat :=
    if digits.isEmpty then some 0 else hexValue? digits
  match cs with
  | [] => none
  | '0' :: 'x' :: digits | '0' :: 'X' :: digits => hexadecimal digits
  | '0' :: c :: rest =>
    if (c :: rest).all fun digit => '0' ≤ digit && digit ≤ '7' then
      some ((c :: rest).foldl (fun total digit => 8 * total + (digit.toNat - '0'.toNat)) 0)
    else none
  | digits => if digits.all Decimal.isDigit then some (Decimal.digitsValue digits) else none

def dropRoot (labels : List (List Char)) : List (List Char) :=
  if labels.getLast? == some [] then labels.dropLast else labels

/-- The last label is a number, so that the whole has to be an address. -/
def endsInNumber (labels : List (List Char)) : Bool :=
  (dropRoot labels).getLast?.any fun last =>
    (!last.isEmpty && last.all Decimal.isDigit) || (hostNumber? last).isSome

/-- An address of the older protocol: up to four numbers, of which the last fills all bytes
that the others leave. -/
def isOlderAddress (labels : List (List Char)) : Bool :=
  let parts := dropRoot labels
  match parts.mapM hostNumber? with
  | none => false
  | some numbers =>
    match numbers.getLast? with
    | none => false
    | some last =>
      numbers.length ≤ 4 && numbers.dropLast.all (· ≤ 255) &&
        last < Nat.pow 256 (5 - numbers.length)

/-- A name that is not empty, and an address if it ends in a number. -/
def isNamedHost (cs : List Char) : Bool :=
  match (hostText? cs).bind readName? with
  | none => false
  | some name =>
    let labels := Text.pieces '.' name
    !name.isEmpty && (labels? name).isSome && (!endsInNumber labels || isOlderAddress labels)

def isHost (cs : List Char) : Bool :=
  match cs with
  | '[' :: rest => rest.getLast? == some ']' && isNewerAddress rest.dropLast
  | cs => isNamedHost cs

end DocForm.Web
