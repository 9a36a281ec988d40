import DocForm.Content
import DocForm.Field.Lifecycle

/-! Fields whose answer is a choice among listed options. -/

namespace DocForm

structure MarkedOption where
  option : FieldOption
  marker : Option String
  line : Option Nat
deriving DecidableEq, Repr

namespace Heading

/-- Check the id of an item that comes after others with the ids `taken`. -/
def markedOption (heading : Heading) (taken : List String) (item : OptionItem) :
    Except ParseError MarkedOption :=
  let place := heading.optionPlace item.line
  match item.id with
  | none => .error ⟨.missingOptionId item.label, place⟩
  | some id =>
    if !isIdentifier id then .error ⟨.invalidId id, place⟩
    else if taken.contains id then .error ⟨.duplicateOption id, place⟩
    else .ok ⟨⟨id, item.label⟩, item.marker, item.line⟩

def markOptions (heading : Heading) (taken : List String) :
    List OptionItem → Except ParseError (List MarkedOption)
  | [] => .ok []
  | item :: rest => do
    let marked ← heading.markedOption taken item
    return marked :: (← heading.markOptions (marked.option.id :: taken) rest)

def markedOptions (heading : Heading) : Except ParseError (List MarkedOption) :=
  heading.markOptions [] heading.node.optionItems

/-- In a select a marker is blank or a cross. -/
def isSelected (heading : Heading) (marked : MarkedOption) : Except ParseError Bool :=
  match marked.marker with
  | none => .ok false
  | some marker =>
    match CheckboxState.ofMarker? marker with
    | some .todo => .ok false
    | some .done => .ok true
    | _ =>
      let kindName := heading.kind.name
      .error ⟨.invalidMarker marker s!"{kindName} fields", heading.optionPlace marked.line⟩

def selectedIds (heading : Heading) (marked : List MarkedOption) :
    Except ParseError (List String) := do
  let crosses ← marked.mapM heading.isSelected
  return ((marked.zip crosses).filter (·.2)).map fun chosen => chosen.1.option.id

def readSingleSelect (heading : Heading) : Except ParseError Entry := do
  heading.forbidHints
  let required ← heading.flag "required"
  let marked ← heading.markedOptions
  let selected ← heading.selectedIds marked
  let number := selected.length
  let remarks :=
    if 1 < number then [s!"{number} options are selected, keeping the first"] else []
  return ⟨required, .singleSelect (marked.map (·.option)), heading.node.fenceValue?,
    .singleSelect selected.head?, remarks⟩

def readMultiSelect (heading : Heading) : Except ParseError Entry := do
  heading.forbidHints
  let required ← heading.flag "required"
  let (minSelections, maxSelections) ← heading.counts "minSelections" "maxSelections"
  let marked ← heading.markedOptions
  let selected ← heading.selectedIds marked
  return ⟨required, .multiSelect ⟨marked.map (·.option), minSelections, maxSelections⟩,
    heading.node.fenceValue?, .multiSelect selected, []⟩

/-- The state that a marker gives an option. A blank marker is the initial state in every
mode. -/
def markedState (heading : Heading) (mode : CheckboxMode) (marked : MarkedOption) :
    Except ParseError CheckboxState :=
  match marked.marker with
  | none => .ok (.initial mode)
  | some marker =>
    let state := (CheckboxState.ofMarker? marker).map fun state =>
      if state = .todo then .initial mode else state
    match state.filter (·.allowedIn mode) with
    | some state => .ok state
    | none =>
      let modeName := mode.name
      .error ⟨.invalidMarker marker s!"checkboxMode={modeName}", heading.optionPlace marked.line⟩

/-- In explicit mode every option has to be answered, so the field is always required. -/
def checkboxesRequired (heading : Heading) (mode : CheckboxMode) : Except ParseError Bool := do
  let required ← heading.read "required" AttributeValue.bool?
  if mode = .explicit then
    if required = some false then heading.refuse .explicitNotRequired else return true
  else return required.getD false

def readCheckboxes (heading : Heading) : Except ParseError Entry := do
  heading.forbidHints
  let mode := (← heading.word "checkboxMode").getD CheckboxMode.multi
  let approval := (← heading.word "approvalMode").getD ApprovalMode.none
  let minDone ← heading.count "minDone"
  let required ← heading.checkboxesRequired mode
  let marked ← heading.markedOptions
  let states ← marked.mapM (heading.markedState mode)
  let options := marked.map (·.option)
  return ⟨required, .checkboxes ⟨options, mode, approval, minDone⟩, heading.node.fenceValue?,
    .checkboxes (.ofList ((options.map (·.id)).zip states)), []⟩

end Heading

end DocForm
