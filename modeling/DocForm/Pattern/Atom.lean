import DocForm.Pattern.Basic

/-! The smallest parts of a written pattern: characters, escapes, the names of character
properties and the conditions on a place. -/

namespace DocForm.Pattern

/-- How the rest of a group is to be read. -/
structure Flags where
  ignoreCase : Bool := false
  multiLine : Bool := false
  dotAll : Bool := false
  carriage : Bool := false
  /-- Character classes and letter case are those of ASCII. -/
  ascii : Bool := false
  /-- White space and comments between the parts mean nothing. -/
  spaced : Bool := false
deriving DecidableEq, Repr

inductive Atom
  | literal (c : Char)
  | dot
  | set (set : Unicode.CharSet)
  | anchor (anchor : Anchor)
deriving DecidableEq, Repr

/-- The text behind white space and comments; a comment runs to the end of its line. -/
def skipIgnored (inComment : Bool) : List Char → List Char
  | [] => []
  | c :: rest =>
    if inComment then skipIgnored (c != '\n') rest
    else if Text.isBlank c then skipIgnored false rest
    else if c == '#' then skipIgnored true rest
    else c :: rest

namespace Flags

def skip (flags : Flags) (cs : List Char) : List Char :=
  if flags.spaced then skipIgnored false cs else cs

def fold (flags : Flags) (set : Unicode.CharSet) : Unicode.CharSet :=
  if !flags.ignoreCase then set
  else if flags.ascii then .asciiFolded set
  else .folded set

/-- A set or the characters outside it. ASCII classes have no negation, as it would hold
parts of characters. -/
def negate? (flags : Flags) (negated : Bool) (set : Unicode.CharSet) : Option Unicode.CharSet :=
  if !negated then some set else if flags.ascii then none else some (.complement set)

end Flags

def charOfCode? (code : Nat) : Option Char :=
  if code < 0xD800 ∨ (0xDFFF < code ∧ code ≤ 0x10FFFF) then some (Char.ofNat code) else none

def takeHexDigits? (flags : Flags) : Nat → Nat → List Char → Option (Nat × List Char)
  | 0, total, cs => some (total, cs)
  | count + 1, total, cs =>
    match flags.skip cs with
    | [] => none
    | c :: rest => do takeHexDigits? flags count (16 * total + (← Unicode.hexDigit? c)) rest

/-- The characters before a closing brace, and the text behind it. The fuel is the length of
the text. -/
def takeBraced? (flags : Flags) : Nat → List Char → Option (List Char × List Char)
  | 0, _ => none
  | fuel + 1, cs =>
    match flags.skip cs with
    | [] => none
    | '\x7d' :: rest => some ([], rest)
    | c :: rest => (takeBraced? flags fuel rest).map fun found => (c :: found.1, found.2)

def takeHexChar? (flags : Flags) (digits : Nat) (cs : List Char) : Option (Char × List Char) := do
  match flags.skip cs with
  | '\x7b' :: rest =>
    let (body, after) ← takeBraced? flags (rest.length + 1) rest
    return (← charOfCode? (← Unicode.hexValue? body), after)
  | rest =>
    let (code, after) ← takeHexDigits? flags digits 0 rest
    if flags.ascii && digits == 2 && 0x80 ≤ code then none
    else return (← charOfCode? code, after)

def cutAt? (mark : List Char) : List Char → Option (List Char × List Char)
  | [] => none
  | c :: rest =>
    match mark.isPrefixOf? (c :: rest) with
    | some after => some ([], after)
    | none => (cutAt? mark rest).map fun found => (c :: found.1, found.2)

def propertySet? (body : List Char) : Option Unicode.CharSet :=
  match cutAt? ['!', '='] body <|> cutAt? [':'] body <|> cutAt? ['='] body with
  | some (property, value) => Unicode.valued? property value
  | none => Unicode.named? body

def takeProperty? (flags : Flags) (negated : Bool) (cs : List Char) :
    Option (Unicode.CharSet × List Char) := do
  let (body, rest) ← match flags.skip cs with
    | '\x7b' :: rest => takeBraced? flags (rest.length + 1) rest
    | c :: rest => if c == '\\' then none else some ([c], rest)
    | [] => none
  if flags.ascii then none
  else return (← flags.negate? negated (flags.fold (← propertySet? body)), rest)

def shortClass? (c : Char) (ascii : Bool) : Option Unicode.CharSet :=
  match c with
  | 'd' => some (if ascii then .range 0x30 0x39 else Unicode.digitSet)
  | 's' => some (if ascii then .ofText "9-D 20" else Unicode.blankSet)
  | 'w' => some (if ascii then asciiWordSet else Unicode.wordSet)
  | _ => none

/-- Characters of ASCII that a backslash may stand before without changing them. -/
def isEscapable (c : Char) : Bool :=
  c.toNat < 0x80 && !c.isAlphanum && c != '<' && c != '>'

def controlChar? : Char → Option Char
  | 'a' => some '\x07'
  | 'f' => some '\x0c'
  | 't' => some '\t'
  | 'n' => some '\n'
  | 'r' => some '\r'
  | 'v' => some '\x0b'
  | _ => none

def wordEdge? (name : List Char) : Option WordEdge :=
  match String.ofList name with
  | "start" => some .start
  | "end" => some .stop
  | "start-half" => some .startHalf
  | "end-half" => some .stopHalf
  | _ => none

private def isEdgeLetter (c : Char) : Bool := c.isAlpha || c == '-'

/-- The kind of word boundary, which a word in braces may narrow. Braces that do not begin
with a letter or a hyphen are left for a repetition. -/
def takeWordEdge? (flags : Flags) (cs : List Char) : Option (WordEdge × List Char) :=
  match cs with
  | '\x7b' :: rest =>
    match flags.skip rest with
    | [] => none
    | c :: _ =>
      if isEdgeLetter c then do
        let (name, after) ← takeBraced? flags (rest.length + 1) rest
        return (← wordEdge? name, after)
      else some (.boundary, cs)
  | _ => some (.boundary, cs)

def takeEscape? (flags : Flags) : List Char → Option (Atom × List Char)
  | [] => none
  | c :: rest =>
    let word (edge : WordEdge) : Atom := .anchor (.word edge flags.ascii)
    match c with
    | 'x' => (takeHexChar? flags 2 rest).map fun found => (.literal found.1, found.2)
    | 'u' => (takeHexChar? flags 4 rest).map fun found => (.literal found.1, found.2)
    | 'U' => (takeHexChar? flags 8 rest).map fun found => (.literal found.1, found.2)
    | 'p' => (takeProperty? flags false rest).map fun found => (.set found.1, found.2)
    | 'P' => (takeProperty? flags true rest).map fun found => (.set found.1, found.2)
    | 'A' => some (.anchor .textStart, rest)
    | 'z' => some (.anchor .textEnd, rest)
    | 'b' => (takeWordEdge? flags rest).map fun found => (word found.1, found.2)
    | 'B' => some (word .noBoundary, rest)
    | '<' => some (word .start, rest)
    | '>' => some (word .stop, rest)
    | _ =>
      if isEscapable c then some (.literal c, rest)
      else match controlChar? c, shortClass? c.toLower flags.ascii with
        | some control, _ => some (.literal control, rest)
        | none, some set => (flags.negate? c.isUpper set).map fun set => (.set set, rest)
        | none, none => none

def dotSet (flags : Flags) : Unicode.CharSet :=
  if flags.dotAll then .all
  else if flags.carriage then .complement (.ofText "A D")
  else .complement (.ofText "A")

/-- The pattern that an atom stands for. A dot among ASCII classes would match parts of
characters. -/
def Atom.pattern? (flags : Flags) : Atom → Option Pattern
  | .literal c => some (.char (flags.fold (.single c)))
  | .dot => if flags.ascii then none else some (.char (dotSet flags))
  | .set members => some (.char members)
  | .anchor condition => some (.anchor condition)

end DocForm.Pattern
