import DocForm.Unicode.Property

/-! Patterns that a text is searched for. -/

namespace DocForm

inductive WordEdge
  | boundary
  | noBoundary
  | start
  | stop
  | startHalf
  | stopHalf
deriving DecidableEq, Repr

/-- A condition on a place in the text. With `carriage`, a carriage return ends a line too. -/
inductive Anchor
  | textStart
  | textEnd
  | lineStart (carriage : Bool)
  | lineEnd (carriage : Bool)
  /-- With `ascii`, words are made of ASCII letters, digits and underscores only. -/
  | word (edge : WordEdge) (ascii : Bool)
deriving DecidableEq, Repr

/-- A pattern. Which of several matches is preferred is not part of it. -/
inductive Pattern
  | empty
  | char (set : Unicode.CharSet)
  | anchor (anchor : Anchor)
  | seq (first second : Pattern)
  | either (first second : Pattern)
  /-- At least `least` matches in a row and at most `most`, if there is a limit. -/
  | repeated (body : Pattern) (least : Nat) (most : Option Nat)
deriving DecidableEq, Repr

namespace Pattern

def literal (c : Char) : Pattern := char (.single c)

def sequence : List Pattern → Pattern
  | [] => empty
  | [pattern] => pattern
  | pattern :: rest => seq pattern (sequence rest)

def asciiWordSet : Unicode.CharSet := .ofText "30-39 41-5A 5F 61-7A"

end Pattern

end DocForm
