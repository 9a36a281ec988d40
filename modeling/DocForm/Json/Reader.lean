import DocForm.Json.Basic
import DocForm.Decimal.Binary
import DocForm.Decimal.Digits

/-! Reading JSON text. -/

namespace DocForm.Json

def isSpace (c : Char) : Bool := c == ' ' || c == '\n' || c == '\t' || c == '\r'

def skipSpace (cs : List Char) : List Char := cs.dropWhile isSpace

structure Literal where
  negative : Bool
  whole : List Char
  fraction : List Char
  exponent : Option Int

private def digits? (cs : List Char) : Option (List Char × List Char) :=
  let digits := cs.takeWhile Decimal.isDigit
  if digits.isEmpty then none else some (digits, cs.dropWhile Decimal.isDigit)

/-- The whole part of a number, which has no superfluous zeros in front. -/
private def whole? (cs : List Char) : Option (List Char × List Char) := do
  let (digits, rest) ← digits? cs
  if digits.head? = some '0' && 1 < digits.length then none else some (digits, rest)

private def fraction? : List Char → Option (List Char × List Char)
  | '.' :: rest => digits? rest
  | rest => some ([], rest)

private def exponent? : List Char → Option (Option Int × List Char)
  | [] => some (none, [])
  | mark :: rest =>
    if mark = 'e' || mark = 'E' then do
      let (negative, unsigned) := match rest with
        | '-' :: more => (true, more)
        | '+' :: more => (false, more)
        | more => (false, more)
      let (digits, after) ← digits? unsigned
      let size : Int := Decimal.digitsValue digits
      some (some (if negative then -size else size), after)
    else some (none, mark :: rest)

def Literal.read? (cs : List Char) : Option (Literal × List Char) := do
  let (negative, unsigned) := match cs with
    | '-' :: rest => (true, rest)
    | rest => (false, rest)
  let (whole, afterWhole) ← whole? unsigned
  let (fraction, afterFraction) ← fraction? afterWhole
  let (exponent, rest) ← exponent? afterFraction
  some (⟨negative, whole, fraction, exponent⟩, rest)

/-- Add digits to a number as long as it stays below 64 bits; the second part counts the
digits that are left. -/
def absorb (value : Nat) : List Char → Nat × Nat
  | [] => (value, 0)
  | digit :: rest =>
    let longer := 10 * value + Decimal.digitValue digit
    if longer < UInt64.size then absorb longer rest else (value, rest.length + 1)

def stepExponent : Nat := 308

private def tenTo (exponent : Nat) : Float := Decimal.nearestDouble false (Nat.pow 10 exponent) 1

/-- A double times a power of ten, by one multiplication or division, or by several
divisions for very small powers; nothing when the product is infinite. Three divisions
bring every 64-bit number to zero. -/
def scaleTen : Nat → Float → Int → Option Float
  | divisions, value, exponent =>
    if exponent.natAbs ≤ stepExponent then
      if 0 ≤ exponent then
        let product := value * tenTo exponent.natAbs
        if product.isInf then none else some product
      else some (value / tenTo exponent.natAbs)
    else if value == 0 then some value
    else if 0 ≤ exponent then none
    else
      match divisions with
      | 0 => some 0
      | more + 1 => scaleTen more (value / tenTo stepExponent) (exponent + stepExponent)

/-- A number without point and exponent is whole if it fits 64 bits and is not a negative
zero. Every other number becomes a double from its first 64 bits and its power of ten. -/
def Literal.toJson? (literal : Literal) : Option Json :=
  let (wholePart, left) := absorb 0 literal.whole
  let signed (value : Float) : Json := .float (if literal.negative then -value else value)
  let isPlain := literal.fraction.isEmpty && literal.exponent.isNone && left = 0
  if isPlain && !literal.negative then some (.int wholePart)
  else if isPlain && 0 < wholePart && wholePart ≤ Nat.pow 2 63 then some (.int (-(wholePart : Int)))
  else
    let (significand, dropped) := absorb wholePart literal.fraction
    let taken : Int := literal.fraction.length - dropped
    let exponent := left - taken + literal.exponent.getD 0
    (scaleTen 3 (Decimal.nearestDouble false significand 1) exponent).map signed

private def hexValue? (c : Char) : Option Nat :=
  if '0' ≤ c && c ≤ '9' then some (c.toNat - '0'.toNat)
  else if 'a' ≤ c && c ≤ 'f' then some (c.toNat - 'a'.toNat + 10)
  else if 'A' ≤ c && c ≤ 'F' then some (c.toNat - 'A'.toNat + 10)
  else none

private def hex4? (a b c d : Char) : Option Nat := do
  some (((← hexValue? a) * 16 + (← hexValue? b)) * 256 + (← hexValue? c) * 16 + (← hexValue? d))

private def escaped? : Char → Option Char
  | '"' => some '"'
  | '\\' => some '\\'
  | '/' => some '/'
  | 'b' => some '\x08'
  | 'f' => some '\x0c'
  | 'n' => some '\n'
  | 'r' => some '\r'
  | 't' => some '\t'
  | _ => none

/-- The rest of a text after its opening quote, and what follows its closing quote. The
characters read so far are held in reverse. -/
def readText? (read : List Char) : List Char → Option (List Char × List Char)
  | '"' :: rest => some (read.reverse, rest)
  | '\\' :: 'u' :: a :: b :: c :: d :: rest => do
    let unit ← hex4? a b c d
    if unit < 0xD800 || 0xE000 ≤ unit then readText? (Char.ofNat unit :: read) rest
    else if 0xDC00 ≤ unit then none
    else
      -- Half of a pair, whose other half has to come next.
      match rest with
      | '\\' :: 'u' :: e :: f :: g :: h :: more => do
        let low ← hex4? e f g h
        if 0xDC00 ≤ low && low < 0xE000 then
          readText? (Char.ofNat (0x10000 + (unit - 0xD800) * 0x400 + (low - 0xDC00)) :: read) more
        else none
      | _ => none
  | '\\' :: mark :: rest => do readText? ((← escaped? mark) :: read) rest
  | c :: rest => if c.toNat < 0x20 || c = '\\' then none else readText? (c :: read) rest
  | [] => none

mutual

/-- The value at the front of a text, and what follows it. `fuel` bounds the steps and
`depth` the lists and records that may still be opened. -/
def readValue? (fuel depth : Nat) (cs : List Char) : Option (Json × List Char) :=
  match fuel with
  | 0 => none
  | fuel + 1 =>
    match skipSpace cs with
    | 'n' :: 'u' :: 'l' :: 'l' :: rest => some (.null, rest)
    | 't' :: 'r' :: 'u' :: 'e' :: rest => some (.bool true, rest)
    | 'f' :: 'a' :: 'l' :: 's' :: 'e' :: rest => some (.bool false, rest)
    | '"' :: rest => do
      let (text, after) ← readText? [] rest
      some (.str (String.ofList text), after)
    | '[' :: rest =>
      match depth with
      | 0 => none
      | depth + 1 =>
        match skipSpace rest with
        | ']' :: after => some (.arr [], after)
        | items => readItems? fuel depth [] items
    | '\x7b' :: rest =>
      match depth with
      | 0 => none
      | depth + 1 =>
        match skipSpace rest with
        | '\x7d' :: after => some (.obj [], after)
        | members => readMembers? fuel depth [] members
    | number => do
      let (literal, after) ← Literal.read? number
      some (← literal.toJson?, after)

def readItems? (fuel depth : Nat) (read : List Json) (cs : List Char) :
    Option (Json × List Char) :=
  match fuel with
  | 0 => none
  | fuel + 1 => do
    let (item, after) ← readValue? fuel depth cs
    match skipSpace after with
    | ',' :: rest => readItems? fuel depth (item :: read) rest
    | ']' :: rest => some (.arr (item :: read).reverse, rest)
    | _ => none

def readMembers? (fuel depth : Nat) (read : Members) (cs : List Char) :
    Option (Json × List Char) :=
  match fuel with
  | 0 => none
  | fuel + 1 =>
    match skipSpace cs with
    | '"' :: quoted => do
      let (name, afterName) ← readText? [] quoted
      match skipSpace afterName with
      | ':' :: rest => do
        let (value, after) ← readValue? fuel depth rest
        let read := (String.ofList name, value) :: read
        match skipSpace after with
        | ',' :: more => readMembers? fuel depth read more
        | '\x7d' :: more => some (.obj read.reverse, more)
        | _ => none
      | _ => none
    | _ => none

end

def maxDepth : Nat := 127

/-- The value that a whole text stands for. Each step takes a character off it, save those
that open a list or record. -/
def read? (text : String) : Option Json := do
  let cs := text.toList
  let (value, rest) ← readValue? (2 * cs.length + 2) maxDepth cs
  if (skipSpace rest).isEmpty then some value else none

/-- Of several parts with one name only the last is kept, in the place of the first. -/
def lastOfEach (members : Members) : Members :=
  members.foldl (fun kept member =>
    if kept.any (·.1 == member.1) then
      kept.map fun other => if other.1 == member.1 then member else other
    else kept ++ [member]) []

mutual

def withoutRepeats : Json → Json
  | .arr items => .arr (withoutRepeatsItems items)
  | .obj members => .obj (lastOfEach (withoutRepeatsMembers members))
  | other => other

def withoutRepeatsItems : List Json → List Json
  | [] => []
  | item :: rest => withoutRepeats item :: withoutRepeatsItems rest

def withoutRepeatsMembers : List (String × Json) → List (String × Json)
  | [] => []
  | (name, value) :: rest => (name, withoutRepeats value) :: withoutRepeatsMembers rest

end

end DocForm.Json
