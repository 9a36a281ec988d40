import DocForm.Decimal.Numeral
import DocForm.Response
import DocForm.Sentinel
import DocForm.Wire.Document

/-! Words, sentinels and responses as JSON. -/

namespace DocForm

def Vocabulary.toJson {α : Type} [Vocabulary α] (value : α) : Json := .str (word value)

def Vocabulary.caseOfJson? {α : Type} [Vocabulary α] (depth : Json.Depth) (json : Json) :
    Option α :=
  (json.case? depth).bind read?

def Vocabulary.ofJson? {α : Type} [Vocabulary α] (json : Json) : Option α :=
  caseOfJson? .outer json

/-- A word that tells which parts a record has. Inside a tagged record its position among
the words may stand for it. -/
def Vocabulary.tagOfJson? {α : Type} [Vocabulary α] (depth : Json.Depth) : Json → Option α
  | .str text => read? text
  | .int position =>
    if depth = .inner && 0 ≤ position then members[position.toNat]? else none
  | _ => none

instance : Vocabulary SentinelKind :=
  ⟨"sentinel", [.skip, .abort], fun | .skip => "skip" | .abort => "abort"⟩

instance : Vocabulary ResponseState :=
  ⟨"response state", [.unanswered, .answered, .skipped, .aborted], ResponseState.name⟩

namespace Sentinel

def toJson (sentinel : Sentinel) : Json :=
  .obj (("kind", Vocabulary.toJson sentinel.kind) :: Json.ifSome "reason" .str sentinel.reason)

def ofJson? (json : Json) : Option Sentinel := do
  let members ← json.record? ["kind", "reason"]
  let kind ← members.required "kind" Vocabulary.ofJson?
  let reason ← members.optional "reason" Json.text?
  return ⟨kind, reason⟩

end Sentinel

namespace CellValue

def toJson : CellValue → Json
  | .integer value => .int value
  | .number value => .float value
  | .text value => .str value

/-- Cells hold 64-bit integers; every other number is a double. -/
def ofJson? : Json → Option CellValue
  | .int value =>
    let limit : Int := Nat.pow 2 63
    some (if -limit ≤ value && value < limit then .integer value
      else .number (Float.ofInt value))
  | .float value => some (.number value)
  | .str value => some (.text value)
  | _ => none

end CellValue

namespace Response

variable {α : Type}

def toJson (write : α → Json) (response : Response α) : Json :=
  .obj (("state", Vocabulary.toJson response.state) :: match response with
    | .unanswered => []
    | .answered value => [("value", write value)]
    | .skipped reason | .aborted reason => Json.ifSome "reason" .str reason)

def ofJson? (depth : Json.Depth) (read : Json → Option α) (json : Json) :
    Option (Response α) := do
  let (tag, rest) ← json.splitTag? "state"
  let state : ResponseState ← Vocabulary.tagOfJson? depth tag
  match state with
  | .unanswered => (rest.record? []).map fun _ => .unanswered
  | .answered => return .answered (← (← rest.record? ["value"]).required "value" read)
  | .skipped => return .skipped (← (← rest.record? ["reason"]).optional "reason" Json.text?)
  | .aborted => return .aborted (← (← rest.record? ["reason"]).optional "reason" Json.text?)

end Response

namespace CellResponse

def toJson (response : CellResponse) : Json := Response.toJson CellValue.toJson response

def readAt? (depth : Json.Depth) (json : Json) : Option CellResponse :=
  Response.ofJson? depth CellValue.ofJson? json

def ofJson? (json : Json) : Option CellResponse := readAt? .outer json

end CellResponse

namespace TableRow

def toJson (row : TableRow) : Json := Dict.toJson CellResponse.toJson row

def readAt? (depth : Json.Depth) (json : Json) : Option TableRow :=
  Dict.ofJson? (CellResponse.readAt? depth) json

def ofJson? (json : Json) : Option TableRow := readAt? .outer json

end TableRow

namespace FieldValue

def contentName : FieldKind → String
  | .string | .number | .url | .date | .year => "value"
  | .stringList | .urlList => "items"
  | .singleSelect | .multiSelect => "selected"
  | .checkboxes => "values"
  | .table => "rows"

def contentToJson : FieldValue → Json
  | .string value | .url value | .date value => Json.orNull .str value
  | .number value => Json.orNull .float value
  | .year value => Json.orNull .int value
  | .stringList items | .urlList items => .arr (items.map .str)
  | .singleSelect selected => Json.orNull .str selected
  | .multiSelect selected => .arr (selected.map .str)
  | .checkboxes values => values.toJson Vocabulary.toJson
  | .table rows => .arr (rows.map TableRow.toJson)

def toJson (value : FieldValue) : Json :=
  .obj [("kind", Vocabulary.toJson value.kind), (contentName value.kind, value.contentToJson)]

def yearOfJson? (json : Json) : Option Int := Json.intIn? yearMin yearMax json

def ofMembers? (members : Json.Members) (kind : FieldKind) : Option FieldValue :=
  let name := contentName kind
  let texts := Json.list? Json.text?
  match kind with
  | .string => (members.optional name Json.text?).map .string
  | .number => (members.optional name Json.float?).map .number
  | .stringList => (members.required name texts).map .stringList
  | .singleSelect => (members.optional name Json.text?).map .singleSelect
  | .multiSelect => (members.required name texts).map .multiSelect
  | .checkboxes =>
    (members.required name (Dict.ofJson? (Vocabulary.caseOfJson? .inner))).map .checkboxes
  | .url => (members.optional name Json.text?).map .url
  | .urlList => (members.required name texts).map .urlList
  | .date => (members.optional name Json.text?).map .date
  | .year => (members.optional name yearOfJson?).map .year
  | .table => (members.required name (Json.list? (TableRow.readAt? .inner))).map .table

def readAt? (depth : Json.Depth) (json : Json) : Option FieldValue := do
  let (tag, rest) ← json.splitTag? "kind"
  let kind : FieldKind ← Vocabulary.tagOfJson? depth tag
  let members ← rest.wholeRecord? [contentName kind]
  ofMembers? members kind

def ofJson? (json : Json) : Option FieldValue := readAt? .outer json

end FieldValue

namespace FieldResponse

def toJson (response : FieldResponse) : Json := Response.toJson FieldValue.toJson response

/-- The value of an answer stands inside the response. -/
def ofJson? (json : Json) : Option FieldResponse :=
  Response.ofJson? .outer (FieldValue.readAt? .inner) json

end FieldResponse

end DocForm
