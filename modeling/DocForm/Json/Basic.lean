/-! JSON values, and reading a record out of one. Whole numbers that fit 64 bits are kept
apart from all others. -/

namespace DocForm

inductive Json where
  | null
  | bool (value : Bool)
  | int (value : Int)
  | float (value : Float)
  | str (value : String)
  | arr (items : List Json)
  | obj (members : List (String × Json))
deriving Inhabited

namespace Json

abbrev Members := List (String × Json)

def text? : Json → Option String
  | .str value => some value
  | _ => none

def bool? : Json → Option Bool
  | .bool value => some value
  | _ => none

/-- A whole number is also read where a fraction is allowed. -/
def float? : Json → Option Float
  | .float value => some value
  | .int value => some (Float.ofInt value)
  | _ => none

def intIn? (least greatest : Int) : Json → Option Int
  | .int value => if least ≤ value && value ≤ greatest then some value else none
  | _ => none

/-- Counts are unsigned 64-bit numbers. -/
def countMax : Nat := UInt64.size - 1

def count? (json : Json) : Option Nat := (intIn? 0 countMax json).map Int.toNat

def ofCount (n : Nat) : Json := .int n

def items? : Json → Option (List Json)
  | .arr items => some items
  | _ => none

def list? {α : Type} (read : Json → Option α) (json : Json) : Option (List α) :=
  json.items?.bind fun items => items.mapM read

def members? : Json → Option Members
  | .obj members => some members
  | _ => none

/-- No part of a record is given twice. Names that the record does not know may be. -/
def namesOnce (names : List String) (members : Members) : Bool :=
  names.all fun name => (members.filter fun member => member.1 == name).length ≤ 1

/-- A record is written with its names, or as the list of its parts in their order. -/
def record? (names : List String) : Json → Option Members
  | .obj members => if namesOnce names members then some members else none
  | .arr items => if items.length ≤ names.length then some (names.zip items) else none
  | _ => none

/-- A record that is written as a list has to have all its parts. -/
def wholeRecord? (names : List String) : Json → Option Members
  | .arr items => if items.length = names.length then some (names.zip items) else none
  | json => json.record? names

/-- The tag that tells which parts a record has, and the rest of the record. It is written
with its names, or as the list of its tag and its parts. -/
def splitTag? (name : String) : Json → Option (Json × Json)
  | .obj members => (members.lookup name).map fun tag => (tag, .obj members)
  | .arr (tag :: parts) => some (tag, .arr parts)
  | _ => none

/-- Where a part stands: by itself, or inside a tagged record, which is more lenient. -/
inductive Depth where
  | outer
  | inner
deriving DecidableEq, Repr

/-- A case is written as its name, or as the name with nothing under it. Inside a tagged
record an empty record is nothing too. -/
def case? (depth : Depth) : Json → Option String
  | .str name => some name
  | .obj [(name, .null)] => some name
  | .obj [(name, .obj [])] => if depth = .inner then some name else none
  | _ => none

/-- Absent parts and null are both nothing. -/
def nullable? {α : Type} (read : Json → Option α) : Json → Option (Option α)
  | .null => some none
  | json => (read json).map some

end Json

namespace Json.Members

variable {α : Type}

def get? (members : Members) (name : String) : Option Json := members.lookup name

def required (members : Members) (name : String) (read : Json → Option α) : Option α :=
  (members.get? name).bind read

/-- A part that may be absent or null. -/
def optional (members : Members) (name : String) (read : Json → Option α) : Option (Option α) :=
  match members.get? name with
  | none => some none
  | some json => nullable? read json

/-- A part that may be absent, but not null. -/
def defaulted (members : Members) (name : String) (read : Json → Option α) (absent : α) :
    Option α :=
  match members.get? name with
  | none => some absent
  | some json => read json

end Json.Members

def Json.ifSome {α : Type} (name : String) (write : α → Json) : Option α → Json.Members
  | none => []
  | some value => [(name, write value)]

/-- A list that is written when it has members. -/
def Json.ifAny {α : Type} (name : String) (write : α → Json) : List α → Json.Members
  | [] => []
  | items => [(name, .arr (items.map write))]

def Json.orNull {α : Type} (write : α → Json) : Option α → Json
  | none => .null
  | some value => write value

end DocForm
