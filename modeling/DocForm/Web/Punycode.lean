/-! Labels in ASCII that stand for other characters: the ASCII characters of the label first,
then a number in variable base for each place where another one is put in. -/

namespace DocForm.Web.Punycode

def base : Nat := 36

def firstCode : Nat := 0x80

def firstBias : Nat := 72

/-- The value of a letter or digit; letters come first. -/
def digit? (c : Char) : Option Nat :=
  if 'a' ≤ c ∧ c ≤ 'z' then some (c.toNat - 'a'.toNat)
  else if 'A' ≤ c ∧ c ≤ 'Z' then some (c.toNat - 'A'.toNat)
  else if '0' ≤ c ∧ c ≤ '9' then some (c.toNat - '0'.toNat + 26)
  else none

/-- A digit below the threshold ends a number. -/
def threshold (position bias : Nat) : Nat :=
  if position ≤ bias then 1 else min 26 (position - bias)

/-- A number with the least digit first; `position` grows by the base with each digit. -/
def takeNumber? (bias : Nat) : Nat → Nat → Nat → List Char → Option (Nat × List Char)
  | _, _, _, [] => none
  | position, weight, total, c :: rest => do
    let digit ← digit? c
    let total := total + digit * weight
    let limit := threshold position bias
    if digit < limit then return (total, rest)
    else takeNumber? bias (position + base) (weight * (base - limit)) total rest

def shrink : Nat → Nat → Nat → Nat × Nat
  | 0, step, position => (step, position)
  | fuel + 1, step, position =>
    if 455 < step then shrink fuel (step / 35) (position + base) else (step, position)

/-- The bias for the next number, from the last step and the length so far. -/
def adapt (step length : Nat) (isFirst : Bool) : Nat :=
  let damped := if isFirst then step / 700 else step / 2
  let (small, position) := shrink damped (damped + damped / length) 0
  position + base * small / (small + 38)

def isScalar (code : Nat) : Bool := code < 0xD800 || (0xDFFF < code && code ≤ 0x10FFFF)

/-- Puts characters in until no number is left. Each number says how far to go, over places
in the label and then over code points. -/
def insertAll? : Nat → List Nat → Nat → Nat → Nat → List Char → Option (List Nat)
  | _, done, _, _, _, [] => some done
  | 0, _, _, _, _, _ => none
  | fuel + 1, done, code, index, bias, c :: rest => do
    let (step, after) ← takeNumber? bias base 1 0 (c :: rest)
    let length := done.length + 1
    let place := (index + step) % length
    let code := code + (index + step) / length
    if isScalar code then
      insertAll? fuel (done.insertIdx place code) code (place + 1) (adapt step length (index == 0))
        after
    else none

/-- The label that a text in ASCII stands for. Its last hyphen ends the ASCII characters of
the label, unless nothing stands before it. -/
def decode? (cs : List Char) : Option (List Nat) :=
  let extended := (cs.reverse.takeWhile (· != '-')).reverse
  let plain := cs.take (cs.length - extended.length - 1)
  if plain.isEmpty then insertAll? (cs.length + 1) [] firstCode 0 firstBias cs
  else insertAll? (cs.length + 1) (plain.map Char.toNat) firstCode 0 firstBias extended

end DocForm.Web.Punycode
