import DocForm.Node
import DocForm.Text.Split

/-! What is written inside a field: the value in a fence, the items of an option list, and
the lines of a table. -/

namespace DocForm

namespace Node

/-- A fence's text without its own line ending. -/
def withoutLineEnd (content : String) : String :=
  Text.dropEnd "\r" (Text.dropEnd "\n" content)

/-- The text of a fence whose language is `value`; a fence without content is empty. -/
def valueText? (node : Node) : Option String :=
  match node.attribute? "language", node.attribute? "content" with
  | some (.text language), some (.text content) =>
    if Text.trim language = "value" then some (withoutLineEnd content) else none
  | some (.text language), none => if Text.trim language = "value" then some "" else none
  | _, _ => none

/-- The text of the first value fence directly inside a node. -/
def fenceValue? (node : Node) : Option String :=
  node.children.findSome? fun child => if child.isFence then child.valueText? else none

end Node

/-- A list item inside a chooser: its id, its `[c]` marker and the text after it. -/
structure OptionItem where
  id : Option String
  marker : Option String
  label : String
  line : Option Nat
deriving DecidableEq, Repr

namespace OptionItem

/-- A marker is three characters in brackets with white space or nothing after it. -/
def splitMarker : List Char → Option (List Char) × List Char
  | '[' :: mark :: ']' :: rest =>
    if (rest.head?.map Text.isBlank).getD true then (some ['[', mark, ']'], Text.trimmed rest)
    else (none, '[' :: mark :: ']' :: rest)
  | text => (none, text)

def ofNode (node : Node) : OptionItem :=
  let (marker, label) := splitMarker (Text.trimmed node.textContent.toList)
  { id := (node.text? "id").bind Text.trim?
    marker := marker.map String.ofList
    label := String.ofList label
    line := node.line? }

end OptionItem

namespace Node

mutual

/-- The items in a node that is not itself one. Nothing is looked for in fences, nor in
an item. -/
def itemsWithin : Node → List OptionItem
  | ⟨type, tag, attributes, children, lines⟩ =>
    let node : Node := ⟨type, tag, attributes, children, lines⟩
    -- An item is taken as it is: items inside it are not looked for.
    if node.isItem then [OptionItem.ofNode node]
    else if node.isFence then []
    else itemsAmong children

def itemsAmong : List Node → List OptionItem
  | [] => []
  | child :: rest => itemsWithin child ++ itemsAmong rest

end

def optionItems (node : Node) : List OptionItem := itemsAmong node.children

/-- Lines that are complete, in reverse, and the line being filled. -/
structure LineBuffer where
  complete : List String
  current : String

namespace LineBuffer

def empty : LineBuffer := ⟨[], ""⟩

def append (buffer : LineBuffer) (text : String) : LineBuffer :=
  { buffer with current := buffer.current ++ text }

def endLine (buffer : LineBuffer) : LineBuffer := ⟨buffer.current :: buffer.complete, ""⟩

/-- The lines in order; the last one counts unless it is blank. -/
def lines (buffer : LineBuffer) : List String :=
  (if (Text.trim buffer.current).isEmpty then buffer else buffer.endLine).complete.reverse

end LineBuffer

mutual

/-- Add the text of a node to the lines; breaks end a line. -/
def fillLines (buffer : LineBuffer) : Node → LineBuffer
  | ⟨type, tag, attributes, children, lines⟩ =>
    let node : Node := ⟨type, tag, attributes, children, lines⟩
    if node.isText then buffer.append node.ownText
    else if node.isBreak then buffer.endLine
    -- Other nodes, blocks among them, end no line of their own.
    else fillLinesAmong buffer children

def fillLinesAmong (buffer : LineBuffer) : List Node → LineBuffer
  | [] => buffer
  | child :: rest => fillLinesAmong (fillLines buffer child) rest

end

/-- Fences and tags are no part of a table's text. -/
def holdsTableText (node : Node) : Bool := !node.isFence && node.tagName?.isNone

/-- The lines written directly in a table field, trimmed and without blank ones. -/
def tableLines (node : Node) : List String :=
  let written := (node.children.filter holdsTableText).flatMap fun child =>
    (fillLines .empty child).lines
  (written.map Text.trim).filter fun line => !line.isEmpty

/-- The text of a table field: its value fence, or else its lines. -/
def tableText? (node : Node) : Option String :=
  match node.fenceValue? with
  | some text => some text
  | none =>
    let text := "\n".intercalate node.tableLines
    if text.isEmpty then none else some text

end Node

end DocForm
