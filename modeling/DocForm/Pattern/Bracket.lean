import DocForm.Pattern.Atom

/-! Bracketed sets of characters: single ones, ranges, named classes, sets within sets, and
the operations between them. -/

namespace DocForm.Pattern

/-- A set and how deeply the text that describes it is nested. -/
structure NestedSet where
  set : Unicode.CharSet
  depth : Nat

inductive SetOperation
  | inter
  | diff
  | xor

def SetOperation.apply : SetOperation → Unicode.CharSet → Unicode.CharSet → Unicode.CharSet
  | .inter, first, second => .inter first second
  | .diff, first, second => .diff first second
  | .xor, first, second => .xor first second

namespace NestedSet

def flat (set : Unicode.CharSet) : NestedSet := ⟨set, 0⟩

/-- The members of all of some sets, the last of which comes first. -/
def join : List NestedSet → NestedSet
  | [] => flat .empty
  | [only] => only
  | items => ⟨.unions (items.map (·.set)), (items.map (·.depth)).foldl max 0 + 1⟩

end NestedSet

/-- The left side of an operation whose right side is still to come. -/
abbrev Pending := Option (SetOperation × NestedSet)

def Pending.close (pending : Pending) (flags : Flags) (items : List NestedSet) : NestedSet :=
  let right := NestedSet.join items
  match pending with
  | none => right
  | some (operation, left) =>
    ⟨operation.apply (flags.fold left.set) (flags.fold right.set), max left.depth right.depth + 1⟩

def namedClass? (name : String) : Option Unicode.CharSet :=
  (match name with
  | "alnum" => some "30-39 41-5A 61-7A"
  | "alpha" => some "41-5A 61-7A"
  | "ascii" => some "0-7F"
  | "blank" => some "9 20"
  | "cntrl" => some "0-1F 7F"
  | "digit" => some "30-39"
  | "graph" => some "21-7E"
  | "lower" => some "61-7A"
  | "print" => some "20-7E"
  | "punct" => some "21-2F 3A-40 5B-60 7B-7E"
  | "space" => some "9-D 20"
  | "upper" => some "41-5A"
  | "word" => some "30-39 41-5A 5F 61-7A"
  | "xdigit" => some "30-39 41-46 61-66"
  | _ => none).map .ofText

/-- A named class between colons and its closing bracket, with a sign for its negation. The
text starts behind the opening bracket. -/
def takeNamedClass? (cs : List Char) : Option (Bool × Unicode.CharSet × List Char) :=
  match cs with
  | ':' :: rest =>
    let (negated, body) := match rest with
      | '^' :: body => (true, body)
      | body => (false, body)
    match body.dropWhile (· != ':') with
    | ':' :: ']' :: after =>
      (namedClass? (String.ofList (body.takeWhile (· != ':')))).map fun set => (negated, set, after)
    | _ => none
  | _ => none

/-- The character that decides whether a hyphen makes a range. Where white space is skipped,
the sign of one comment is skipped with it, but not the comment. -/
def peekBehindHyphen (flags : Flags) (cs : List Char) : Option Char :=
  if flags.spaced then
    let bare := match cs.dropWhile Text.isBlank with
      | '#' :: rest => rest.dropWhile Text.isBlank
      | rest => rest
    bare.head? <|> cs.head?
  else cs.head?

def takeMember? (flags : Flags) : List Char → Option (Atom × List Char)
  | [] => none
  | '\\' :: rest => takeEscape? flags rest
  | c :: rest => some (.literal c, rest)

/-- The character that a member of a set is; ASCII sets hold only ASCII characters. -/
def Atom.member? (flags : Flags) : Atom → Option Char
  | .literal c => if flags.ascii && 0x7F < c.toNat then none else some c
  | _ => none

def Atom.memberSet? (flags : Flags) : Atom → Option Unicode.CharSet
  | .set members => some members
  | atom => (atom.member? flags).map .single

def takeRange? (flags : Flags) (cs : List Char) : Option (Unicode.CharSet × List Char) := do
  let (first, rest) ← takeMember? flags cs
  match flags.skip rest with
  | [] => none
  | '-' :: behind =>
    let next := peekBehindHyphen flags behind
    -- Before the closing bracket or another hyphen, a hyphen stands for itself.
    if next == some ']' || next == some '-' then return (← first.memberSet? flags, '-' :: behind)
    else
      let (last, after) ← takeMember? flags (flags.skip behind)
      let low ← first.member? flags
      let high ← last.member? flags
      if low ≤ high then return (.range low.toNat high.toNat, after) else none
  | after => return (← first.memberSet? flags, after)

mutual

def takeBracket? (flags : Flags) : Nat → List Char → Option (NestedSet × List Char)
  | 0, _ => none
  | fuel + 1, cs => do
    let (negated, body) := match flags.skip cs with
      | '^' :: body => (true, body)
      | body => (false, body)
    let (inner, rest) ← takeItems? flags fuel true none [] body
    return (⟨← flags.negate? negated (flags.fold inner.set), inner.depth + 1⟩, rest)

/-- The items up to the closing bracket. While `fresh`, hyphens stand for themselves, and so
does a closing bracket before any item. -/
def takeItems? (flags : Flags) :
    Nat → Bool → Pending → List NestedSet → List Char → Option (NestedSet × List Char)
  | 0, _, _, _, _ => none
  | fuel + 1, fresh, pending, items, cs =>
    -- An operation takes all that stands before it as its left side.
    let operate (operation : SetOperation) (rest : List Char) :=
      takeItems? flags fuel false (some (operation, pending.close flags items)) [] rest
    match fresh, flags.skip cs with
    | _, [] => none
    | true, '-' :: rest => takeItems? flags fuel true pending (.flat (.single '-') :: items) rest
    | fresh, ']' :: rest =>
      if fresh && items.isEmpty then
        takeItems? flags fuel false pending (.flat (.single ']') :: items) rest
      else some (pending.close flags items, rest)
    | _, '[' :: rest =>
      match takeNamedClass? rest with
      | some (negated, set, after) => do
        let set ← flags.negate? negated (flags.fold set)
        takeItems? flags fuel false pending (.flat set :: items) after
      | none => do
        let (inner, after) ← takeBracket? flags fuel rest
        takeItems? flags fuel false pending (inner :: items) after
    | _, '&' :: '&' :: rest => operate .inter rest
    | _, '-' :: '-' :: rest => operate .diff rest
    | _, '~' :: '~' :: rest => operate .xor rest
    | _, rest => do
      let (set, after) ← takeRange? flags rest
      takeItems? flags fuel false pending (.flat set :: items) after

end

end DocForm.Pattern
