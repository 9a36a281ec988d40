import DocForm.Calendar
import DocForm.Content
import DocForm.Decimal.Numeral
import DocForm.Field.Lifecycle
import DocForm.Web.Address

/-! Fields that hold one typed value: text, number, web address, date and year. -/

namespace DocForm

namespace Heading

def typed (heading : Heading) : Option String × Option String :=
  let content := heading.node.fenceValue?
  (content, content.bind Text.trim?)

/-- The remark on a text that is no value of its kind and not a sentinel either. -/
def notRead {α : Type} (typed : Option String) (value : Option α) (noun : String) : List String :=
  match typed with
  | some text =>
    -- Only a remark, in strict readings too.
    if value.isNone && (Sentinel.parse? text).isNone then
      [s!"'{text}' is not a {noun}, treating the field as empty"]
    else []
  | none => []

def readString (heading : Heading) (settings : Settings) : Except ParseError Entry := do
  let required ← heading.flag "required"
  let (minLength, maxLength) ← heading.counts "minLength" "maxLength"
  let pattern ← heading.text "pattern"
  let (hints, remarks) ← heading.hints settings.strict fun _ => true
  let (content, text) := heading.typed
  return ⟨required, .string ⟨minLength, maxLength, pattern, hints⟩, content, .string text, remarks⟩

def readNumber (heading : Heading) (settings : Settings) : Except ParseError Entry := do
  let required ← heading.flag "required"
  let min ← heading.number "min"
  let max ← heading.number "max"
  heading.checkBounds (fun low high => high < low) "min" "max" min max
  let integer ← heading.flag "integer"
  let (hints, remarks) ← heading.hints settings.strict fun text => (parseNumber? text).isSome
  let (content, text) := heading.typed
  let value := text.bind parseNumber?
  return ⟨required, .number ⟨min, max, integer, hints⟩, content, .number value,
    remarks ++ notRead text value "number"⟩

def readUrl (heading : Heading) (settings : Settings) : Except ParseError Entry := do
  let required ← heading.flag "required"
  let (hints, remarks) ← heading.hints settings.strict isHttpUrl
  let (content, text) := heading.typed
  return ⟨required, .url hints, content, .url text, remarks⟩

/-- A bound that has to be a date; it is kept trimmed. -/
def dateBound (heading : Heading) (name : String) : Except ParseError (Option String) :=
  heading.read name fun value =>
    (value.text?.filter fun text => (parseDate? text).isSome).map Text.trim

def readDate (heading : Heading) (settings : Settings) : Except ParseError Entry := do
  let required ← heading.flag "required"
  let min ← heading.dateBound "min"
  let max ← heading.dateBound "max"
  heading.checkBounds (fun low high => high.before low) "min" "max"
    (min.bind parseDate?) (max.bind parseDate?)
  let (hints, remarks) ← heading.hints settings.strict fun text => (parseDate? text).isSome
  let (content, text) := heading.typed
  return ⟨required, .date ⟨min, max, hints⟩, content, .date text, remarks⟩

def wholeYear? (value : Float) : Option Int := (Decimal.whole? value).filter inYearRange

def yearBound (heading : Heading) (name : String) : Except ParseError (Option Int) :=
  heading.read name fun value => value.number?.bind wholeYear?

def readYear (heading : Heading) (settings : Settings) : Except ParseError Entry := do
  let required ← heading.flag "required"
  let min ← heading.yearBound "min"
  let max ← heading.yearBound "max"
  heading.checkBounds (fun low high => high < low) "min" "max" min max
  let (hints, remarks) ← heading.hints settings.strict fun text => (parseYear? text).isSome
  let (content, text) := heading.typed
  let value := text.bind parseYear?
  return ⟨required, .year ⟨min, max, hints⟩, content, .year value,
    remarks ++ notRead text value "year"⟩

end Heading

end DocForm
