import DocForm.Text.Split

/-! Sets of code points, written as runs of hexadecimal numbers, and catalogs of such sets
by name. -/

namespace DocForm.Unicode

/-- The code points from `first` to `last` in equal steps. -/
structure CodeRun where
  first : Nat
  last : Nat
  step : Nat
deriving DecidableEq, Repr

namespace CodeRun

def contains (run : CodeRun) (code : Nat) : Bool :=
  run.first ≤ code && code ≤ run.last && (code - run.first) % run.step == 0

def dense (first last : Nat) : CodeRun := ⟨first, last, 1⟩

end CodeRun

def hexDigit? (c : Char) : Option Nat :=
  if '0' ≤ c ∧ c ≤ '9' then some (c.toNat - '0'.toNat)
  else if 'a' ≤ c ∧ c ≤ 'f' then some (c.toNat - 'a'.toNat + 10)
  else if 'A' ≤ c ∧ c ≤ 'F' then some (c.toNat - 'A'.toNat + 10)
  else none

def hexValue? (cs : List Char) : Option Nat :=
  if cs.isEmpty then none
  else cs.foldlM (fun total c => (hexDigit? c).map (16 * total + ·)) 0

namespace CodeRun

/-- One code point `A`, a dense run `A-B`, or a run with steps `A-B/C`. -/
def ofChars? (cs : List Char) : Option CodeRun := do
  let (range, step) ← match Text.pieces '/' cs with
    | [range] => some (range, 1)
    | [range, step] => (hexValue? step).map (range, ·)
    | _ => none
  match Text.pieces '-' range with
  | [only] => (hexValue? only).map fun code => ⟨code, code, step⟩
  | [first, last] => do return ⟨← hexValue? first, ← hexValue? last, step⟩
  | _ => none

def listOfText (text : String) : List CodeRun :=
  (Text.piecesBy Text.isBlank text.toList).filterMap ofChars?

end CodeRun

/-- Written sets of code points, each under the names by which it is known. -/
abbrev Catalog := List (String × String)

def Catalog.find? (catalog : Catalog) (name : String) : Option (List CodeRun) :=
  (List.find? (fun entry => (Text.splitOn ' ' entry.1).contains name) catalog).map
    fun entry => CodeRun.listOfText entry.2

end DocForm.Unicode
