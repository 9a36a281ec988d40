import DocForm.Proofs.Field.Reading
import DocForm.Proofs.Text.Pieces
import DocForm.Field.Parse

/-! Tables in a fence and tables in paragraphs. Main statement: a table field reads the same, whether
its lines are written in a fence or among its own paragraphs. -/

namespace DocForm

/-- The lines that nodes side by side write. Texts make up a line, and a break ends it. -/
inductive WritesLines : List Node → List String → Prop where
  | nothing : WritesLines [] [""]
  | text {node : Node} {rest : List Node} {content line : String} {lines : List String}
      (isText : node.type = "text") (holds : node.attribute? "content" = some (.text content))
      (later : WritesLines rest (line :: lines)) :
      WritesLines (node :: rest) ((content ++ line) :: lines)
  | lineBreak {node : Node} {rest : List Node} {lines : List String}
      (isBreak : node.type = "softbreak" ∨ node.type = "hardbreak")
      (later : WritesLines rest lines) : WritesLines (node :: rest) ("" :: lines)

/-- The lines that paragraphs write. An empty line is none. -/
inductive WritesTable : List Node → List String → Prop where
  | nothing : WritesTable [] []
  | paragraph {node : Node} {rest : List Node} {written lines : List String}
      (isParagraph : node.type = "paragraph") (writes : WritesLines node.children written)
      (later : WritesTable rest lines) :
      WritesTable (node :: rest) (written.filter (· ≠ "") ++ lines)

/-- A value fence with a text in it. A fence without content holds an empty text. -/
structure FencesText (fence : Node) (text : String) : Prop where
  isFence : fence.type = "fence"
  language : ∃ language, fence.attribute? "language" = some (.text language) ∧
    Text.trim language = "value"
  content : fence.attribute? "content" = some (.text text) ∨
    fence.attribute? "content" = none ∧ text = ""

/-- Trimmed lines without those that show nothing. -/
def shownLines (lines : List String) : List String :=
  (lines.map Text.trim).filter fun line => !line.isEmpty

theorem shownLines_append (first second : List String) :
    shownLines (first ++ second) = shownLines first ++ shownLines second := by
  rw [shownLines, List.map_append, List.filter_append, shownLines, shownLines]

theorem shownLines_cons_of_blank {line : String} (blank : (Text.trim line).isEmpty = true)
    (lines : List String) : shownLines (line :: lines) = shownLines lines := by
  simp [shownLines, blank]

theorem shownLines_filter (lines : List String) :
    shownLines (lines.filter (· ≠ "")) = shownLines lines := by
  induction lines with
  | nil => rfl
  | cons line rest ih =>
    by_cases nothing : line = ""
    · have blank : (Text.trim line).isEmpty = true := by
        rw [nothing]
        decide
      rw [List.filter_cons_of_neg (by simpa using nothing), ih, shownLines_cons_of_blank blank]
    · rw [List.filter_cons_of_pos (by simpa using nothing), ← List.singleton_append,
        shownLines_append, ih, ← shownLines_append, List.singleton_append]

theorem shownLines_of_isLine {lines : List String} (each : ∀ line ∈ lines, Text.IsLine line) :
    shownLines lines = lines := by
  have kept : lines.map Text.trim = lines :=
    (List.map_congr_left fun line member => (each line member).trimmed).trans (List.map_id _)
  rw [shownLines, kept, List.filter_eq_self]
  intro line member
  simpa using (each line member).shown

namespace Node

/-- All lines of a buffer in order, the one being filled included. -/
def LineBuffer.all (buffer : LineBuffer) : List String :=
  (buffer.current :: buffer.complete).reverse

theorem LineBuffer.shownLines_lines (buffer : LineBuffer) :
    shownLines buffer.lines = shownLines buffer.all := by
  rw [LineBuffer.lines, LineBuffer.all, List.reverse_cons]
  split
  · rename_i blank
    rw [shownLines_append, shownLines_cons_of_blank blank]
    simp [shownLines]
  · rw [LineBuffer.endLine, List.reverse_cons]

variable {buffer : LineBuffer} {node : Node} {nodes : List Node} {lines : List String}

theorem fillLines_of_isText (isText : node.isText = true) :
    fillLines buffer node = buffer.append node.ownText := by
  obtain ⟨type, tag, attributes, children, covered⟩ := node
  rw [fillLines]
  simp only [isText, if_true]

theorem fillLines_of_isBreak (noText : node.isText = false) (isBreak : node.isBreak = true) :
    fillLines buffer node = buffer.endLine := by
  obtain ⟨type, tag, attributes, children, covered⟩ := node
  rw [fillLines]
  simp [noText, isBreak]

theorem fillLines_of_children (noText : node.isText = false) (noBreak : node.isBreak = false) :
    fillLines buffer node = fillLinesAmong buffer node.children := by
  obtain ⟨type, tag, attributes, children, covered⟩ := node
  rw [fillLines]
  simp [noText, noBreak]

/-- What nodes write comes behind what a buffer holds. -/
theorem all_fillLinesAmong (writes : WritesLines nodes lines) (buffer : LineBuffer) :
    ∃ first rest, lines = first :: rest ∧
      (fillLinesAmong buffer nodes).all =
        buffer.complete.reverse ++ (buffer.current ++ first) :: rest := by
  induction writes generalizing buffer with
  | nothing => exact ⟨"", [], rfl, by simp [fillLinesAmong, LineBuffer.all]⟩
  | @text node rest content line lines isText holds later ih =>
    have own : node.ownText = content := by simp [ownText, text?, holds, AttributeValue.text?]
    obtain ⟨first, more, same, filled⟩ := ih (buffer.append content)
    obtain ⟨rfl, rfl⟩ := List.cons.inj same
    refine ⟨_, _, rfl, ?_⟩
    rw [fillLinesAmong, fillLines_of_isText (by simp [Node.isText, isText]), own, filled,
      LineBuffer.append, String.append_assoc]
  | @lineBreak node rest lines isBreak later ih =>
    obtain ⟨first, more, rfl, filled⟩ := ih buffer.endLine
    refine ⟨_, _, rfl, ?_⟩
    have noText : node.isText = false := by
      rcases isBreak with soft | hard <;> simp [Node.isText, *]
    rw [fillLinesAmong, fillLines_of_isBreak noText (by simpa [Node.isBreak] using isBreak), filled]
    simp [LineBuffer.endLine]

theorem shownLines_of_paragraph {written : List String} (isParagraph : node.type = "paragraph")
    (writes : WritesLines node.children written) :
    shownLines (fillLines .empty node).lines = shownLines written := by
  obtain ⟨first, rest, rfl, filled⟩ := all_fillLinesAmong writes .empty
  rw [fillLines_of_children (by simp [Node.isText, isParagraph])
    (by simp [Node.isBreak, isParagraph]), LineBuffer.shownLines_lines, filled]
  simp [LineBuffer.empty]

theorem holdsTableText_of_paragraph (isParagraph : node.type = "paragraph") :
    holdsTableText node = true := by
  simp [holdsTableText, isFence, tagName?, isParagraph]

theorem tableLines_of_paragraphs {paragraphs : List Node} (writes : WritesTable paragraphs lines) :
    ({ node with children := paragraphs } : Node).tableLines = shownLines lines := by
  rw [tableLines]
  change shownLines ((paragraphs.filter holdsTableText).flatMap fun child =>
    (fillLines .empty child).lines) = shownLines lines
  induction writes with
  | nothing => rfl
  | paragraph isParagraph writes later ih =>
    rw [List.filter_cons_of_pos (holdsTableText_of_paragraph isParagraph), List.flatMap_cons,
      shownLines_append, shownLines_of_paragraph isParagraph writes, ih, shownLines_append,
      shownLines_filter]

/-- There is no fence among paragraphs. -/
theorem fenceValue?_of_paragraphs {paragraphs : List Node} (writes : WritesTable paragraphs lines) :
    ({ node with children := paragraphs } : Node).fenceValue? = none := by
  rw [fenceValue?, List.findSome?_eq_none_iff]
  induction writes with
  | nothing => simp
  | @paragraph first rest _ _ isParagraph _ _ ih =>
    refine List.forall_mem_cons.mpr ⟨?_, ih⟩
    simp [isFence, isParagraph]

theorem tableText?_of_paragraphs {paragraphs : List Node} (writes : WritesTable paragraphs lines)
    (each : ∀ line ∈ lines, Text.IsLine line) :
    (({ node with children := paragraphs } : Node).tableText?).getD "" = "\n".intercalate lines := by
  rw [tableText?, fenceValue?_of_paragraphs writes, tableLines_of_paragraphs writes,
    shownLines_of_isLine each]
  dsimp only
  split
  · rename_i nothing
    rw [String.isEmpty_iff.mp nothing, Option.getD_none]
  · rw [Option.getD_some]

theorem eq_withoutLineEnd (text : String) :
    ∃ ending, Text.IsBlank ending ∧ text = withoutLineEnd text ++ ending := by
  obtain ⟨newline, isNewline, whole⟩ := Text.eq_dropEnd "\n" text
  obtain ⟨carriage, isCarriage, rest⟩ := Text.eq_dropEnd "\r" (Text.dropEnd "\n" text)
  refine ⟨carriage ++ newline, ?_, ?_⟩
  · rcases isNewline with rfl | rfl <;> rcases isCarriage with rfl | rfl <;> decide
  · rw [withoutLineEnd, ← String.append_assoc, ← rest, ← whole]

theorem valueText?_of_fencesText {fence : Node} {text : String} (fences : FencesText fence text) :
    fence.valueText? = some (withoutLineEnd text) := by
  obtain ⟨language, tells, isValue⟩ := fences.language
  rcases fences.content with holds | ⟨absent, rfl⟩
  · simp [valueText?, tells, holds, isValue]
  · simp only [valueText?, tells, absent, isValue, if_true]
    rfl

theorem tableText?_of_fence {fence : Node} {text : String} (fences : FencesText fence text) :
    ({ node with children := [fence] } : Node).tableText? = some (withoutLineEnd text) := by
  simp [tableText?, fenceValue?, isFence, fences.isFence, valueText?_of_fencesText fences]

end Node

/-- Texts that show the same. No text shows what an empty one does. -/
structure ReadsAlike (first second : Option String) : Prop where
  trimmed : Text.trim (first.getD "") = Text.trim (second.getD "")
  lines : Text.lines (first.getD "") = Text.lines (second.getD "")

theorem Sentinel.parse?_trim (text : String) : parse? (Text.trim text) = parse? text := by
  rw [parse?, Text.toList_trim, Text.trimmed_trimmed]
  rfl

theorem Sentinel.bind_parse? (text : Option String) :
    text.bind parse? = parse? (Text.trim (text.getD "")) := by
  cases text with
  | none => rfl
  | some text => exact (parse?_trim text).symm

namespace ReadsAlike

variable {first second : Option String}

theorem bind_parse? (alike : ReadsAlike first second) :
    first.bind Sentinel.parse? = second.bind Sentinel.parse? := by
  rw [Sentinel.bind_parse?, Sentinel.bind_parse?, alike.trimmed]

theorem isBypassed (alike : ReadsAlike first second) (state : Option String) :
    Heading.isBypassed first state = Heading.isBypassed second state := by
  have blank : ∀ text : Option String,
      (text.bind Text.trim?).isNone = (Text.trim (text.getD "")).isEmpty := by
    rintro (_ | text)
    · decide
    · rw [Option.bind_some, Text.trim?, Option.getD_some]
      split <;> simp [*]
  rw [Heading.isBypassed, Heading.isBypassed, alike.bind_parse?, blank, blank, alike.trimmed]

theorem parseTable (alike : ReadsAlike first second) (declared : Option (List TableColumn))
    (labelled : Bool) (place : Place) :
    DocForm.parseTable first declared labelled place =
      DocForm.parseTable second declared labelled place := by
  simp only [DocForm.parseTable, alike.lines]

end ReadsAlike

/-- Of the content of an entry only a sentinel in it matters. -/
theorem Entry.settle_eq_of_content {required : Bool} {constraints : Constraints}
    {first second : Option String} {value : FieldValue} {remarks : List String}
    (same : first.bind Sentinel.parse? = second.bind Sentinel.parse?) (state : Option String) :
    settle ⟨required, constraints, first, value, remarks⟩ state =
      settle ⟨required, constraints, second, value, remarks⟩ state := by
  rw [settle, settle, same]
  rfl

namespace Heading

variable {settings : Settings} {node : Node} {first second : List Node}

theorem finish_eq_of_content {heading : Heading} {required : Bool} {constraints : Constraints}
    {value : FieldValue} {remarks : List String} {one other : Option String}
    (same : one.bind Sentinel.parse? = other.bind Sentinel.parse?) :
    heading.finish settings ⟨required, constraints, one, value, remarks⟩ =
      heading.finish settings ⟨required, constraints, other, value, remarks⟩ := by
  simp only [finish, Entry.settle_eq_of_content same]
  rfl

/-- Of what is inside a table field only the text of the table is read. -/
theorem finish_readTable_eq {id label : String}
    (alike : ReadsAlike ({ node with children := first } : Node).tableText?
      ({ node with children := second } : Node).tableText?) :
    (readTable ⟨{ node with children := first }, .table, id, label⟩ >>=
        finish ⟨{ node with children := first }, .table, id, label⟩ settings) =
      (readTable ⟨{ node with children := second }, .table, id, label⟩ >>=
        finish ⟨{ node with children := second }, .table, id, label⟩ settings) := by
  simp only [readTable, alike.isBypassed, alike.parseTable, bind_assoc, pure_bind]
  refine bind_congr fun required => bind_congr fun (minRows, maxRows) => bind_congr fun declared =>
    bind_congr fun state => ?_
  split
  · exact finish_eq_of_content alike.bind_parse?
  · rw [bind_assoc, bind_assoc]
    exact bind_congr fun table => finish_eq_of_content alike.bind_parse?

end Heading

variable {settings : Settings} {node : Node} {first second : List Node}

/-- What is inside a field makes no difference to its heading. -/
theorem Heading.ofNode_withChildren (children : List Node) (kind : FieldKind) :
    ofNode { node with children } kind =
      (fun heading => { heading with node := { node with children } }) <$> ofNode node kind := by
  have sameText : ∀ name, ({ node with children } : Node).text? name = node.text? name :=
    fun _ => rfl
  have sameLine : ({ node with children } : Node).line? = node.line? := rfl
  simp only [ofNode, sameText, sameLine]
  split
  · rfl
  · split
    · rfl
    · split <;> rfl

theorem readField_eq_of_readsAlike
    (alike : ReadsAlike ({ node with children := first } : Node).tableText?
      ({ node with children := second } : Node).tableText?) :
    readField settings { node with children := first } .table =
      readField settings { node with children := second } .table := by
  rw [readField, readField, Heading.ofNode_withChildren, Heading.ofNode_withChildren]
  cases read : Heading.ofNode node .table with
  | error error => rfl
  | ok heading =>
    obtain ⟨-, isTable, -⟩ := Heading.ofNode_eq_ok read
    obtain ⟨_, _, id, label⟩ := heading
    subst isTable
    exact Heading.finish_readTable_eq alike

/-- The text in a fence, its white space at the end aside, is the text of the paragraphs. -/
theorem readsAlike_of_written {fence : Node} {paragraphs : List Node} {lines : List String}
    {ending : String} (each : ∀ line ∈ lines, Text.IsLine line)
    (fenced : FencesText fence ("\n".intercalate lines ++ ending)) (blank : Text.IsBlank ending)
    (written : WritesTable paragraphs lines) :
    ReadsAlike ({ node with children := [fence] } : Node).tableText?
      ({ node with children := paragraphs } : Node).tableText? := by
  obtain ⟨rest, blankRest, shape⟩ :=
    Node.eq_withoutLineEnd ("\n".intercalate lines ++ ending)
  constructor
  · rw [Node.tableText?_of_fence fenced, Node.tableText?_of_paragraphs written each,
      Option.getD_some, ← Text.trim_append _ blankRest, ← shape, Text.trim_append _ blank]
  · rw [Node.tableText?_of_fence fenced, Node.tableText?_of_paragraphs written each,
      Option.getD_some, ← Text.lines_append_blank _ blankRest, ← shape,
      Text.lines_append_blank _ blank]

/-- A table field reads the same, result or error, whether its lines stand in a fence or are spread
over paragraphs, breaks and texts. -/
theorem reads_fenced_as_inline {fence : Node} {paragraphs : List Node} {lines : List String}
    {ending : String} (known : node.fieldKind? = some .table)
    (each : ∀ line ∈ lines, Text.IsLine line)
    (fenced : FencesText fence ("\n".intercalate lines ++ ending)) (blank : Text.IsBlank ending)
    (written : WritesTable paragraphs lines) :
    parseField settings { node with children := [fence] } =
      parseField settings { node with children := paragraphs } := by
  have kindOf : ∀ children : List Node,
      ({ node with children } : Node).fieldKind? = some .table := fun _ => known
  simp only [parseField, kindOf]
  rw [readField_eq_of_readsAlike (readsAlike_of_written each fenced blank written)]

/-- A table of guests, without its lines. -/
def guestList : Node where
  type := "tag"
  tag := some "table-field"
  attributes := .ofList [("id", .text "guests"), ("label", .text "Guests"),
    ("columnIds", .list [.text "name", .text "note"])]
  children := []
  lines := [3]

/-- The lines in a fence. -/
def guestFence : Node :=
  ⟨"fence", none, .ofList [("language", .text " value"),
    ("content", .text "| Name | Note |\n|---|---|\n| Ada | %SKIP% |\r\n")], [], [4]⟩

def guestText (content : String) : Node :=
  ⟨"text", none, .ofList [("content", .text content)], [], []⟩

/-- The same lines in two paragraphs, the first with a break, the second in two texts. -/
def guestParagraphs : List Node :=
  [⟨"paragraph", none, ∅, [guestText "| Name | Note |", ⟨"softbreak", none, ∅, [], []⟩,
      guestText "|---", guestText "|---|"], [4]⟩,
    ⟨"paragraph", none, ∅, [⟨"hardbreak", none, ∅, [], []⟩, guestText "| Ada | ",
      guestText "%SKIP% |"], [7]⟩]

theorem fencesText_guestFence : FencesText guestFence
    ("\n".intercalate ["| Name | Note |", "|---|---|", "| Ada | %SKIP% |"] ++ "\r\n") where
  isFence := rfl
  language := ⟨" value", rfl, by decide⟩
  content := .inl rfl

theorem writesLines_guestText {rest : List Node} {line : String} {lines : List String}
    (content : String) (later : WritesLines rest (line :: lines)) :
    WritesLines (guestText content :: rest) ((content ++ line) :: lines) := .text rfl rfl later

theorem writesTable_guestParagraphs :
    WritesTable guestParagraphs ["| Name | Note |", "|---|---|", "| Ada | %SKIP% |"] := by
  have first : WritesLines guestParagraphs[0].children
      ["| Name | Note |" ++ "", "|---" ++ ("|---|" ++ "")] :=
    writesLines_guestText _ (.lineBreak (.inl rfl)
      (writesLines_guestText _ (writesLines_guestText _ .nothing)))
  have second : WritesLines guestParagraphs[1].children ["", "| Ada | " ++ ("%SKIP% |" ++ "")] :=
    .lineBreak (.inr rfl) (writesLines_guestText _ (writesLines_guestText _ .nothing))
  exact .paragraph rfl first (.paragraph rfl second .nothing)

theorem reads_guestList :
    ∃ parsed, parseField .standard { guestList with children := [guestFence] } = .ok (some parsed) ∧
      parseField .standard { guestList with children := guestParagraphs } = .ok (some parsed) := by
  have known : guestList.fieldKind? = some .table := by decide
  have same : parseField .standard { guestList with children := [guestFence] } =
      parseField .standard { guestList with children := guestParagraphs } :=
    reads_fenced_as_inline known (by decide) fencesText_guestFence (by decide)
      writesTable_guestParagraphs
  have readable : ((parseField .standard
      { guestList with children := guestParagraphs }).toOption.bind id).isSome = true := by
    decide +kernel
  obtain ⟨parsed, found⟩ := Option.isSome_iff_exists.mp readable
  obtain ⟨outcome, read, rfl⟩ := Option.bind_eq_some_iff.mp found
  have read := toOption_eq_some.mp read
  exact ⟨parsed, same.trans read, read⟩

end DocForm
