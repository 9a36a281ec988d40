import DocForm.Unicode.Direction
import DocForm.Unicode.Joining
import DocForm.Web.NameMapping
import DocForm.Web.Punycode

/-! Domain names: how they are read, and which are names at all. A label in ASCII may stand
for other characters; what it stands for has to be a label itself. -/

namespace DocForm.Web

open Unicode

def isForbidden (code : Nat) : Bool :=
  code ≤ 0x20 || code == 0x7F || "%#/:<>?@[\\]^|".toList.any fun c => c.toNat == code

/-- A name as it is read: every character replaced, marks joined, nothing forbidden. -/
def readName? (cs : List Char) : Option (List Char) := do
  let read ← cs.mapM fun c => readNameCode? c.toNat
  let name := normalForm read.flatten
  if name.any isForbidden then none else some (name.map Char.ofNat)

/-- What marks a label in ASCII that stands for other characters. -/
def encodedStart : List Char := ['x', 'n', '-', '-']

/-- The lengths up to which labels beyond ASCII are written and read. -/
def maxPlainLength : Nat := 1000

def maxEncodedLength : Nat := 2000

/-- A label with characters beyond ASCII starts with a letter or a symbol, no mark, and its
joiners stand where they mean something. -/
def isWellFormedLabel (codes : List Nat) : Bool :=
  codes.head?.all (fun first => !(mark ()).containsCode first) && joinersFit [] codes

/-- Each character is read as itself, and the marks are joined already. -/
def isSettled (codes : List Nat) : Bool :=
  codes.all (fun code => readNameCode? code == some [code] && !isForbidden code) &&
    normalForm codes == codes

def labelCodes? (label : List Char) : Option (List Nat) :=
  let isPlain (code : Nat) : Bool := code < 0x80
  let codes := label.map Char.toNat
  match encodedStart.isPrefixOf? label with
  | some encoded =>
    if codes.all isPlain && encoded.length ≤ maxEncodedLength then
      (Punycode.decode? encoded).filter fun decoded =>
        !decoded.all isPlain && isSettled decoded && isWellFormedLabel decoded &&
          !(encodedStart.map Char.toNat).isPrefixOf decoded
    else none
  | none =>
    if codes.all isPlain then some codes
    else if codes.length ≤ maxPlainLength && isWellFormedLabel codes then some codes
    else none

/-- The labels of a name that has been read, if each is one and, where any part runs from
right to left, each is of one direction. -/
def labels? (name : List Char) : Option (List (List Nat)) := do
  let labels ← (Text.pieces '.' name).mapM labelCodes?
  let directions := labels.map (·.map Direction.ofCode)
  if directions.any runsLeftward && !directions.all isOneWay then none else some labels

end DocForm.Web
