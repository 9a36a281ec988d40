import DocForm.Pattern.Basic
import DocForm.Unicode.Interval

/-! How much room a pattern takes. It is matched as a machine that reads one byte after
another; a repetition takes as many copies of its body as it may have matches, and a pattern
whose machine takes too much room is refused. -/

namespace DocForm.Pattern

open Unicode

def maxRoom : Nat := 10 * 1024 * 1024

def stateRoom : Nat := 32

/-- The room of a way that is taken on a range of bytes. -/
def stepRoom : Nat := 8

/-- The room of one more way out of a branch. -/
def wayRoom : Nat := 4

def branchRoom : Nat := stateRoom + 2 * wayRoom

def codeBytes (code : Nat) : List Nat :=
  if code < 0x80 then [code]
  else if code < 0x800 then [0xC0 + code / 0x40, 0x80 + code % 0x40]
  else if code < 0x10000 then [0xE0 + code / 0x1000, 0x80 + code / 0x40 % 0x40, 0x80 + code % 0x40]
  else [0xF0 + code / 0x40000, 0x80 + code / 0x1000 % 0x40, 0x80 + code / 0x40 % 0x40,
    0x80 + code % 0x40]

/-- The last code points with one, two and three bytes. -/
def lengthBounds : List Nat := [0x7F, 0x7FF, 0xFFFF]

/-- How many code points share all bytes but the last one, two or three. -/
def blockSizes : List Nat := [0x40, 0x1000, 0x40000]

/-- The place where an interval has to be cut so that its code points are those whose bytes
lie between the bytes of its ends: the first code point of the second part. -/
def cut? (first last : Nat) : Option Nat :=
  (lengthBounds.find? fun bound => first ≤ bound && bound < last).map (· + 1) <|>
    if last ≤ 0x7F then none
    else blockSizes.findSome? fun size =>
      if first / size == last / size then none
      else if first % size != 0 then some ((first / size + 1) * size)
      else if last % size != size - 1 then some (last / size * size)
      else none

/-- Ranges of bytes in a row, one for each byte of a character. -/
abbrev ByteRanges := List (Nat × Nat)

def byteRanges : Nat → Interval → List ByteRanges
  | 0, _ => []
  | fuel + 1, (first, last) =>
    if last < first then []
    else match cut? first last with
      | some second => byteRanges fuel (first, second - 1) ++ byteRanges fuel (second, last)
      | none => [(codeBytes first).zip (codeBytes last)]

/-- How often an interval may be cut before a part of it is left whole. -/
def maxCuts : Nat := 16

/-- The characters of a set as rows of byte ranges; halves of pairs are no characters. -/
def rowsOf (intervals : List Interval) : List ByteRanges :=
  (intervals.flatMap fun interval =>
    [(interval.1, min interval.2 0xD7FF), (max interval.1 0xE000, interval.2)]).flatMap
      (byteRanges maxCuts)

def sharedLength : ByteRanges → ByteRanges → Nat
  | first :: others, second :: more => if first = second then sharedLength others more + 1 else 0
  | _, _ => 0

/-- The states of rows in order: each shares those that begin like the row before it. -/
def countStates (before : ByteRanges) : List ByteRanges → Nat
  | [] => 0
  | row :: rest => row.length - sharedLength before row + countStates row rest

def setRoom (set : CharSet) : Nat :=
  match set.intervals with
  | [] => stateRoom
  | [(first, last)] =>
    if first = last then stateRoom * (codeBytes first).length else ofRows [(first, last)]
  | intervals => ofRows intervals
where
  ofRows (intervals : List Interval) : Nat :=
    let rows := rowsOf intervals
    -- Sets of single bytes need no more than one state for all their ranges.
    if rows.all fun row => row.all fun range => range.2 < 0x80 then
      2 * stateRoom + stepRoom * rows.length
    else 2 * stateRoom + wayRoom * rows.length + stateRoom * countStates [] rows

def isWidthless : Pattern → Bool
  | empty | anchor _ => true
  | char _ => false
  | seq first second => first.isWidthless && second.isWidthless
  | either first second => first.isWidthless && second.isWidthless
  | repeated body _ most => body.isWidthless || most == some 0

/-- How often the body of a repetition is needed, and whether it is needed once more for
matches without end. Of a widthless body one match is as good as many. -/
def copies (widthless : Bool) (least : Nat) (most : Option Nat) : Nat :=
  match most with
  | some most => if widthless then min most 1 else most
  | none => if widthless then 1 else max least 1

def branchesRoom (widthless : Bool) (least : Nat) (most : Option Nat) : Nat :=
  match most with
  | some most => if widthless then branchRoom else (most - least) * branchRoom + stateRoom
  | none => branchRoom

/-- The room of a pattern, when a set takes the room that `leaf` says. A group takes no room of its
own, since patterns do not tell which groups capture; so a pattern that repeats a capturing group
very often passes although the marks for its captures would not fit. -/
def roomBy (leaf : CharSet → Nat) : Pattern → Nat
  | empty => stateRoom
  | anchor _ => stateRoom
  | char set => leaf set
  | seq first second => first.roomBy leaf + second.roomBy leaf
  | either first second => first.roomBy leaf + second.roomBy leaf + branchRoom
  | repeated body least most =>
    let widthless := body.isWidthless
    copies widthless least most * body.roomBy leaf + branchesRoom widthless least most

def largestSetRoom : Nat := 0x20000

/-- The machine has room enough. The sets are looked at only where it would be scarce if
each were as large as can be. -/
def fits (pattern : Pattern) : Bool :=
  pattern.roomBy (fun _ => largestSetRoom) ≤ maxRoom || pattern.roomBy setRoom ≤ maxRoom

end DocForm.Pattern
