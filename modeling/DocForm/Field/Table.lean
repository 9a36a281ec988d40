import DocForm.Content
import DocForm.Field.Lifecycle
import DocForm.Table.Text

/-! Fields whose answer is a table. -/

namespace DocForm

namespace Heading

/-- A table that is skipped or aborted need not be a table: its text is a sentinel, or it
is blank and the `state` attribute says so. -/
def isBypassed (text state : Option String) : Bool :=
  let blank := (text.bind Text.trim?).isNone
  let declared := state = some "skipped" || state = some "aborted"
  (text.bind Sentinel.parse?).isSome || (blank && declared)

def readTable (heading : Heading) : Except ParseError Entry := do
  let required ← heading.flag "required"
  -- Bounds are compared as they are written; the row that a required table needs is not among them.
  let (minRows, maxRows) ← heading.counts "minRows" "maxRows"
  let declared ← explicitColumns heading.node heading.place
  let labelled := heading.node.hasAttribute "columnLabels"
  let text := heading.node.tableText?
  let state ← heading.text "state"
  let table ←
    if isBypassed text state then pure ⟨declared.getD [], []⟩
    else parseTable text declared labelled heading.place
  return ⟨required, .table ⟨table.columns, minRows, maxRows⟩, text, .table table.rows, []⟩

end Heading

end DocForm
