import DocForm.Pattern.Basic

/-! Searching a text. A pattern takes the set of places where a match may begin to the set
of places where it may end; the text has a match if any place can be reached. -/

namespace DocForm

structure Gap where
  before : Option Char
  after : Option Char
deriving DecidableEq, Repr

namespace Gap

/-- The places of a text from the one behind `before` on. -/
def listFrom (before : Option Char) : List Char → List Gap
  | [] => [⟨before, none⟩]
  | c :: rest => ⟨before, some c⟩ :: listFrom (some c) rest

def isWordAt (ascii : Bool) (side : Option Char) : Bool :=
  side.any (if ascii then Pattern.asciiWordSet else Unicode.wordSet).contains

end Gap

def WordEdge.holds (edge : WordEdge) (before after : Bool) : Bool :=
  match edge with
  | .boundary => before != after
  | .noBoundary => before == after
  | .start => !before && after
  | .stop => before && !after
  | .startHalf => !before
  | .stopHalf => !after

/-- The place in the text is as the condition asks. Between a carriage return and a line
feed no line starts or ends. -/
def Anchor.holds (anchor : Anchor) (gap : Gap) : Bool :=
  match anchor with
  | .textStart => gap.before.isNone
  | .textEnd => gap.after.isNone
  | .lineStart false => gap.before.isNone || gap.before == some '\n'
  | .lineStart true =>
    gap.before.isNone || gap.before == some '\n' ||
      (gap.before == some '\r' && gap.after != some '\n')
  | .lineEnd false => gap.after.isNone || gap.after == some '\n'
  | .lineEnd true =>
    gap.after.isNone || gap.after == some '\r' ||
      (gap.after == some '\n' && gap.before != some '\r')
  | .word edge ascii => edge.holds (Gap.isWordAt ascii gap.before) (Gap.isWordAt ascii gap.after)

/-- For each place of a text whether it belongs to a set. -/
abbrev Marks := List Bool

namespace Marks

def union (first second : Marks) : Marks := List.zipWith (· || ·) first second

/-- The places behind a marked place and a character of the set. -/
def advance (set : Unicode.CharSet) (text : List Char) (marks : Marks) : Marks :=
  false :: List.zipWith (fun c marked => marked && set.contains c) text marks

def restrict (anchor : Anchor) (gaps : List Gap) (marks : Marks) : Marks :=
  List.zipWith (fun gap marked => marked && anchor.holds gap) gaps marks

def times (step : Marks → Marks) : Nat → Marks → Marks
  | 0, marks => marks
  -- Without a marked place no step leads anywhere.
  | count + 1, marks => if marks.any id then times step count (step marks) else marks

def upTo (step : Marks → Marks) : Nat → Marks → Marks
  | 0, marks => marks
  | count + 1, marks =>
    let wider := marks.union (step marks)
    -- Once a step reaches nothing new, no later one does.
    if wider = marks then marks else upTo step count wider

end Marks

namespace Pattern

/-- The places where a match may end that begins at a marked place. Longer than the text no
chain of matches needs to be: the next match would be empty, and can be had again or left
out. -/
def reach (text : List Char) (gaps : List Gap) : Pattern → Marks → Marks
  | empty, marks => marks
  | char set, marks => marks.advance set text
  | anchor condition, marks => marks.restrict condition gaps
  | seq first second, marks => second.reach text gaps (first.reach text gaps marks)
  | either first second, marks =>
    (first.reach text gaps marks).union (second.reach text gaps marks)
  | repeated body least most, marks =>
    let longest := text.length + 1
    let more := match most with
      | some most => min (most - least) longest
      | none => longest
    Marks.upTo (body.reach text gaps) more
      (Marks.times (body.reach text gaps) (min least longest) marks)

def isFoundIn (pattern : Pattern) (text : String) : Bool :=
  let gaps := Gap.listFrom none text.toList
  (pattern.reach text.toList gaps (gaps.map fun _ => true)).any id

end Pattern

end DocForm
