import DocForm.Dict
import DocForm.Decimal.Layout

/-! Values of the attributes in a document, and references to validators among them. -/

namespace DocForm

/-- The value of an attribute. A record holds its parts in the order of their names. -/
inductive AttributeValue where
  | null
  | bool (value : Bool)
  | number (value : Float)
  | text (value : String)
  | list (items : List AttributeValue)
  | record (parts : List (String × AttributeValue))
deriving Inhabited

namespace AttributeValue

mutual

def describe : AttributeValue → String
  | .null => "null"
  | .bool value => if value then "true" else "false"
  | .number value => Decimal.Layout.prose.render value
  | .text value => value
  | .list items => "[" ++ ", ".intercalate (describeItems items) ++ "]"
  | .record parts => "\x7b" ++ ", ".intercalate (describeParts parts) ++ "\x7d"

def describeItems : List AttributeValue → List String
  | [] => []
  | item :: rest => describe item :: describeItems rest

def describeParts : List (String × AttributeValue) → List String
  | [] => []
  | (name, value) :: rest => (name ++ ": " ++ describe value) :: describeParts rest

end

def text? : AttributeValue → Option String
  | .text value => some value
  | _ => none

def number? : AttributeValue → Option Float
  | .number value => some value
  | _ => none

def bool? : AttributeValue → Option Bool
  | .bool value => some value
  | _ => none

/-- A number that counts something: finite, whole and not negative. Counts have 64 bits;
larger numbers are cut down to the largest. -/
def count? : AttributeValue → Option Nat
  | .number value =>
    if value.isFinite && 0 ≤ value && Decimal.isWhole value then some value.toUInt64.toNat
    else none
  | _ => none

/-- A list of texts; a lone text is a list of one. Members that are no texts are left
out. -/
def texts? : AttributeValue → Option (List String)
  | .text value => some [value]
  | .list items => some (items.filterMap text?)
  | _ => none

end AttributeValue

inductive ValidatorRef where
  | named (id : String)
  | configured (id : String) (params : Dict AttributeValue)

namespace ValidatorRef

def id : ValidatorRef → String
  | .named id => id
  | .configured id _ => id

/-- A text names a validator; so does a record with a textual `id`, whose other parts are
parameters. -/
def ofAttribute? : AttributeValue → Option ValidatorRef
  | .text id => some (.named id)
  | .record parts =>
    match parts.lookup "id" with
    | some (.text id) => some (.configured id (.ofList (parts.filter fun part => part.1 ≠ "id")))
    | _ => none
  | _ => none

end ValidatorRef

end DocForm
