import DocForm.Unicode.Fold

/-! Sets of characters: runs of code points, the set operations, and closure under a change
of case. -/

namespace DocForm.Unicode

inductive CharSet
  | runs (members : List CodeRun)
  | union (first second : CharSet)
  | inter (first second : CharSet)
  | diff (first second : CharSet)
  /-- The characters in exactly one of two sets. -/
  | xor (first second : CharSet)
  | complement (inner : CharSet)
  /-- The characters with a case variant in the set. -/
  | folded (inner : CharSet)
  /-- The set and the other cases of its ASCII letters. -/
  | asciiFolded (inner : CharSet)
deriving DecidableEq, Repr

namespace CharSet

def empty : CharSet := runs []

/-- The characters between two code points, both included. -/
def range (first last : Nat) : CharSet := runs [.dense first last]

def single (c : Char) : CharSet := range c.toNat c.toNat

def all : CharSet := range 0 0x10FFFF

def ofText (text : String) : CharSet := runs (CodeRun.listOfText text)

def containsCode : CharSet → Nat → Bool
  | runs members, code => members.any fun run => run.contains code
  | union first second, code => first.containsCode code || second.containsCode code
  | inter first second, code => first.containsCode code && second.containsCode code
  | diff first second, code => first.containsCode code && !second.containsCode code
  | xor first second, code => first.containsCode code != second.containsCode code
  | complement inner, code => !inner.containsCode code
  | folded inner, code => (caseVariants code).any inner.containsCode
  | asciiFolded inner, code =>
    inner.containsCode code || (asciiVariant? code).any inner.containsCode

def contains (set : CharSet) (c : Char) : Bool := set.containsCode c.toNat

def unions (sets : List CharSet) : CharSet := sets.foldr union empty

end CharSet

end DocForm.Unicode
