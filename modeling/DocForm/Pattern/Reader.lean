import DocForm.Decimal.Digits
import DocForm.Pattern.Bracket
import DocForm.Pattern.Size

/-! Reading a written pattern: alternatives, groups, flags and repetitions. -/

namespace DocForm.Pattern

def maxDepth : Nat := 250

def maxCount : Nat := 4294967295

structure Nested where
  pattern : Pattern
  depth : Nat

/-- A part of a sequence. What sets flags matches nothing and cannot be repeated. -/
inductive Part
  | directive
  | nested (part : Nested)

/-- The sequence of some parts, the last of which comes first. -/
def sequenceOf : List Part → Nested
  | [] => ⟨.empty, 0⟩
  | [.directive] => ⟨.empty, 0⟩
  | [.nested only] => only
  | parts =>
    let inner := parts.filterMap fun part => match part with
      | .directive => none
      | .nested part => some part
    ⟨.sequence (inner.reverse.map (·.pattern)), (inner.map (·.depth)).foldl max 0 + 1⟩

def choiceOf (last : Nested) : List Nested → Nested
  | [] => last
  | earlier =>
    ⟨earlier.foldl (fun choice branch => .either branch.pattern choice) last.pattern,
      (earlier.map (·.depth)).foldl max last.depth + 1⟩

/-- A group that is not closed yet: the alternatives and parts around it, and the flags that
hold again behind it. -/
structure OpenGroup where
  branches : List Nested
  parts : List Part
  flags : Flags

/-- What has been read so far. Branches, parts and groups have the latest first. -/
structure Reading where
  flags : Flags := {}
  branches : List Nested := []
  parts : List Part := []
  groups : List OpenGroup := []
  names : List (List Char) := []

namespace Reading

def push (reading : Reading) (part : Part) : Reading :=
  { reading with parts := part :: reading.parts }

def pushPattern (reading : Reading) (pattern : Pattern) : Reading :=
  reading.push (.nested ⟨pattern, 0⟩)

def whole (reading : Reading) : Nested :=
  choiceOf (sequenceOf reading.parts) reading.branches

def openGroup (reading : Reading) (flags : Flags) : Reading :=
  { reading with
    flags := flags, branches := [], parts := []
    groups := ⟨reading.branches, reading.parts, reading.flags⟩ :: reading.groups }

def closeGroup? (reading : Reading) : Option Reading :=
  match reading.groups with
  | [] => none
  | outer :: groups =>
    let inner := reading.whole
    some { reading with
      flags := outer.flags, branches := outer.branches, groups := groups
      parts := .nested ⟨inner.pattern, inner.depth + 1⟩ :: outer.parts }

def repeat? (reading : Reading) (least : Nat) (most : Option Nat) : Option Reading :=
  match reading.parts with
  | .nested last :: parts =>
    some { reading with
      parts := .nested ⟨.repeated last.pattern least most, last.depth + 1⟩ :: parts }
  | _ => none

end Reading

/-- A flag that a letter sets or clears. Whether repetitions prefer many matches does not
show in the answer. -/
def Flags.set? (flags : Flags) (letter : Char) (value : Bool) : Option Flags :=
  match letter with
  | 'i' => some { flags with ignoreCase := value }
  | 'm' => some { flags with multiLine := value }
  | 's' => some { flags with dotAll := value }
  | 'R' => some { flags with carriage := value }
  | 'u' => some { flags with ascii := !value }
  | 'x' => some { flags with spaced := value }
  | 'U' => some flags
  | _ => none

/-- Flags to set and, behind a hyphen, to clear, each named once. The text that is left
starts with a colon or a closing parenthesis. -/
def takeFlags? (flags : Flags) (seen : List Char) (value : Bool) :
    List Char → Option (Flags × List Char)
  | [] => none
  | c :: rest =>
    if c == ':' || c == ')' then
      if seen.head? == some '-' then none else some (flags, c :: rest)
    else if seen.contains c then none
    else if c == '-' then takeFlags? flags (c :: seen) false rest
    else do takeFlags? (← flags.set? c value) (c :: seen) value rest

def isNameStart (c : Char) : Bool := c == '_' || (Unicode.alphabetic ()).contains c

def isNameRest (c : Char) : Bool :=
  isNameStart c || c == '.' || c == '[' || c == ']' ||
    (Unicode.categories ["nd", "nl", "no"]).contains c

def takeGroupName? (cs : List Char) : Option (List Char × List Char) :=
  match cs.takeWhile (· != '>'), cs.dropWhile (· != '>') with
  | first :: more, '>' :: rest =>
    if isNameStart first && more.all isNameRest then some (first :: more, rest) else none
  | _, _ => none

/-- What an opening parenthesis begins: a group, with or without a name, or flags for the
rest of the group around it. A look around the place is refused. -/
def takeGroup? (reading : Reading) (cs : List Char) : Option (Reading × List Char) :=
  let named (rest : List Char) : Option (Reading × List Char) := do
    let (name, after) ← takeGroupName? rest
    if reading.names.contains name then none
    else
      let opened := reading.openGroup reading.flags
      return ({ opened with names := name :: reading.names }, after)
  match reading.flags.skip cs with
  | '?' :: '=' :: _ | '?' :: '!' :: _ => none
  | '?' :: '<' :: '=' :: _ | '?' :: '<' :: '!' :: _ => none
  | '?' :: 'P' :: '<' :: rest => named rest
  | '?' :: '<' :: rest => named rest
  | '?' :: ')' :: _ => none
  | '?' :: rest => do
    let (flags, after) ← takeFlags? reading.flags [] true rest
    match after with
    | ':' :: body => return (reading.openGroup flags, body)
    | _ :: body => return ({ reading.push .directive with flags := flags }, body)
    | [] => none
  | rest => some (reading.openGroup reading.flags, rest)

def dropLazy : List Char → List Char
  | '?' :: rest => rest
  | rest => rest

def takeCountDigits (flags : Flags) : Nat → List Char → List Char × List Char
  | fuel + 1, c :: rest =>
    if Decimal.isDigit c then
      let (digits, after) := takeCountDigits flags fuel (flags.skip rest)
      (c :: digits, after)
    else ([], c :: rest)
  | _, cs => ([], cs)

def takeCount? (flags : Flags) (cs : List Char) : Option (Nat × List Char) :=
  let (digits, rest) := takeCountDigits flags (cs.length + 1) (cs.dropWhile Text.isBlank)
  let count := Decimal.digitsValue digits
  if digits.isEmpty || maxCount < count then none
  else some (count, flags.skip (rest.dropWhile Text.isBlank))

def takeCounts? (flags : Flags) (cs : List Char) : Option ((Nat × Option Nat) × List Char) := do
  let (least, rest) ← takeCount? flags (flags.skip cs)
  match rest with
  | '\x7d' :: after => return ((least, some least), after)
  | ',' :: more =>
    match flags.skip more with
    | '\x7d' :: after => return ((least, none), after)
    | more =>
      let (most, closing) ← takeCount? flags more
      match closing with
      | '\x7d' :: after => if least ≤ most then return ((least, some most), after) else none
      | _ => none
  | _ => none

def takePart? (reading : Reading) : List Char → Option (Reading × List Char)
  | [] => none
  | c :: rest =>
    let flags := reading.flags
    let times (least : Nat) (most : Option Nat) : Option (Reading × List Char) :=
      (reading.repeat? least most).map (·, dropLazy rest)
    let atom (atom : Atom) (rest : List Char) : Option (Reading × List Char) :=
      (atom.pattern? flags).map fun pattern => (reading.pushPattern pattern, rest)
    match c with
    | '(' => takeGroup? reading rest
    | ')' => (reading.closeGroup?).map (·, rest)
    | '|' =>
      some ({ reading with
        branches := sequenceOf reading.parts :: reading.branches, parts := [] }, rest)
    | '[' => do
      let (set, after) ← takeBracket? flags (rest.length + 2) rest
      return (reading.push (.nested ⟨.char set.set, set.depth⟩), after)
    | '?' => times 0 (some 1)
    | '*' => times 0 none
    | '+' => times 1 none
    | '\x7b' => do
      let ((least, most), after) ← takeCounts? flags rest
      return (← reading.repeat? least most, dropLazy (flags.skip after))
    | '\\' => do
      let (escaped, after) ← takeEscape? flags rest
      atom escaped after
    | '.' => atom .dot rest
    | '^' => atom (.anchor (if flags.multiLine then .lineStart flags.carriage else .textStart)) rest
    | '$' => atom (.anchor (if flags.multiLine then .lineEnd flags.carriage else .textEnd)) rest
    | c => atom (.literal c) rest

/-- Reads parts up to the end of the pattern. The fuel is more than its length. -/
def readParts? : Nat → Reading → List Char → Option Nested
  | 0, _, _ => none
  | fuel + 1, reading, cs =>
    match reading.flags.skip cs with
    | [] => if reading.groups.isEmpty then some reading.whole else none
    | rest => do
      let (next, after) ← takePart? reading rest
      readParts? fuel next after

/-- The pattern that a text describes, if it describes one that is neither too deep nor too
large. -/
def ofString? (text : String) : Option Pattern :=
  ((readParts? (text.length + 1) {} text.toList).filter fun read =>
    read.depth ≤ maxDepth && read.pattern.fits).map (·.pattern)

end DocForm.Pattern
