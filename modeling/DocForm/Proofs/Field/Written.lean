import DocForm.Proofs.Field.ItemList
import DocForm.Proofs.Field.Lifecycle
import DocForm.Proofs.Sentinel.Canonical
import DocForm.Proofs.Table.Inline

/-! Answers as they stand in a value fence: a text, or a list of items behind bullets. Main
statement: what is written is what is read. -/

namespace DocForm

/-- The value fence of a node holds a text: no fence in front of it is a value fence. -/
def Node.HoldsValue (node : Node) (text : String) : Prop :=
  ∃ before fence after, node.children = before ++ fence :: after ∧
    (∀ earlier ∈ before, ∀ other, ¬ FencesText earlier other) ∧ FencesText fence text

/-- A text that answers a field as it stands. -/
structure IsAnswer (text : String) : Prop where
  trimmed : Text.trim text = text
  shown : text ≠ ""
  noSentinel : Sentinel.parse? text = none

/-- What is written into a field of a kind, and the value that it stands for. -/
inductive WritesValue : FieldKind → String → FieldValue → Prop where
  | string {text : String} (answers : IsAnswer text) : WritesValue .string text (.string (some text))
  | url {text : String} (answers : IsAnswer text) : WritesValue .url text (.url (some text))
  | date {text : String} (answers : IsAnswer text) : WritesValue .date text (.date (some text))
  | stringList {items lines : List String} (writes : WritesItems items lines) :
      WritesValue .stringList ("\n".intercalate lines) (.stringList items)
  | urlList {items lines : List String} (writes : WritesItems items lines) :
      WritesValue .urlList ("\n".intercalate lines) (.urlList items)

namespace Node

variable {node fence : Node} {text : String}

theorem exists_fencesText_of_valueText? (isFence : fence.isFence = true)
    (found : fence.valueText? = some text) : ∃ content, FencesText fence content := by
  rw [valueText?] at found
  split at found
  · rename_i language content tells holds
    obtain ⟨isValue, _⟩ := Option.ite_none_right_eq_some.mp found
    exact ⟨content, by simpa [Node.isFence] using isFence, ⟨language, tells, isValue⟩, .inl holds⟩
  · rename_i language tells absent
    obtain ⟨isValue, _⟩ := Option.ite_none_right_eq_some.mp found
    exact ⟨"", by simpa [Node.isFence] using isFence, ⟨language, tells, isValue⟩,
      .inr ⟨absent, rfl⟩⟩
  · cases found

theorem fenceValue?_of_holdsValue (held : node.HoldsValue text) :
    node.fenceValue? = some (withoutLineEnd text) := by
  obtain ⟨before, fence, after, split, others, fences⟩ := held
  rw [fenceValue?, List.findSome?_eq_some_iff]
  refine ⟨before, fence, after, split, ?_, fun earlier member => ?_⟩
  · rw [if_pos (by simp [isFence, fences.isFence]), valueText?_of_fencesText fences]
  · by_cases isFence : earlier.isFence = true
    · rw [if_pos isFence]
      refine Option.eq_none_iff_forall_ne_some.mpr fun value found => ?_
      obtain ⟨content, fences⟩ := exists_fencesText_of_valueText? isFence found
      exact others earlier member content fences
    · rw [if_neg isFence]

/-- The line end of a fence, and white space in front of it, change nothing that is read. -/
theorem readsAlike_of_holdsValue {ending : String} (held : node.HoldsValue (text ++ ending))
    (blank : Text.IsBlank ending) : ReadsAlike node.fenceValue? (some text) := by
  obtain ⟨rest, blankRest, whole⟩ := eq_withoutLineEnd (text ++ ending)
  rw [fenceValue?_of_holdsValue held]
  constructor <;> rw [Option.getD_some, Option.getD_some]
  · calc Text.trim (withoutLineEnd (text ++ ending))
      _ = Text.trim (withoutLineEnd (text ++ ending) ++ rest) := (Text.trim_append _ blankRest).symm
      _ = Text.trim (text ++ ending) := by rw [← whole]
      _ = Text.trim text := Text.trim_append text blank
  · calc Text.lines (withoutLineEnd (text ++ ending))
      _ = Text.lines (withoutLineEnd (text ++ ending) ++ rest) :=
        (Text.lines_append_blank _ blankRest).symm
      _ = Text.lines (text ++ ending) := by rw [← whole]
      _ = Text.lines text := Text.lines_append_blank text blank

end Node

namespace ReadsAlike

variable {first second : Option String}

theorem bind_trim? (alike : ReadsAlike first second) :
    first.bind Text.trim? = second.bind Text.trim? := by
  have shown : ∀ text : Option String, text.bind Text.trim? = Text.trim? (text.getD "") := by
    rintro (_ | text)
    · decide
    · rfl
  rw [shown, shown, Text.trim?, Text.trim?, alike.trimmed]

theorem listItems (alike : ReadsAlike first second) :
    DocForm.listItems (first.getD "") = DocForm.listItems (second.getD "") := by
  rw [DocForm.listItems, DocForm.listItems, alike.lines]

end ReadsAlike

variable {node : Node} {kind : FieldKind} {text : String} {items lines : List String}
  {value : FieldValue} {settings : Settings} {parsed : ParsedField}

/-- A text that begins with a bullet is no sentinel. -/
theorem Sentinel.parse?_of_bullet {bullet : String} (isBullet : IsBullet bullet) (rest : String) :
    parse? (bullet ++ rest) = none := by
  obtain ⟨sign, signed, isSign⟩ := isBullet.exists_sign
  have begins : (bullet ++ rest).toList.head? = some sign := by simp [signed]
  refine Option.eq_none_iff_forall_ne_some.mpr fun sentinel found => ?_
  obtain ⟨kind, reason, shown⟩ := exists_token_of_parse? found
  have first := Text.head?_trim begins (isBlank_of_sign isSign)
  rw [shown, String.toList_append, toList_token] at first
  rcases isSign with rfl | rfl <;> simp at first

theorem WritesItems.noSentinel (writes : WritesItems items lines) :
    Sentinel.parse? ("\n".intercalate lines) = none := by
  obtain ⟨some, _, bulleted⟩ := writes
  cases bulleted with
  | nil => exact absurd rfl some
  | @cons item line _ below bullets _ =>
    obtain ⟨bullet, isBullet, rfl⟩ := bullets
    cases below with
    | nil => rw [String.intercalate_singleton, Sentinel.parse?_of_bullet isBullet]
    | cons next more =>
      rw [String.intercalate_cons_cons, String.append_assoc, String.append_assoc,
        Sentinel.parse?_of_bullet isBullet]

theorem WritesValue.noSentinel (writes : WritesValue kind text value) :
    Sentinel.parse? text = none := by
  cases writes with
  | string answers | url answers | date answers => exact answers.noSentinel
  | stringList writes | urlList writes => exact writes.noSentinel

theorem IsAnswer.trim? (answers : IsAnswer text) : Text.trim? text = some text := by
  rw [Text.trim?, answers.trimmed]
  simp [answers.shown]

/-- The value of a field is the one that is written into its fence, which is never empty. -/
theorem WritesValue.answer (writes : WritesValue kind text value)
    (alike : ReadsAlike node.fenceValue? (some text)) :
    node.answer kind = value ∧ ∀ mode, value.isEmpty mode = false := by
  have typed : node.typedText? = Text.trim? text := alike.bind_trim?
  have listed := alike.listItems
  cases writes with
  | string answers | url answers | date answers =>
    rw [answers.trim?] at typed
    exact ⟨by rw [Node.answer, typed], fun _ => rfl⟩
  | stringList writes | urlList writes =>
    rw [Option.getD_some, listItems_of_writesItems writes] at listed
    exact ⟨by rw [Node.answer, listed], fun _ => by simp [FieldValue.isEmpty, writes.some]⟩

/-- A field without a state is answered with exactly what its value fence holds: a text, or the
items behind the bullets. -/
theorem answered_of_writesValue {ending : String} (known : node.fieldKind? = some kind)
    (stateless : node.Stateless) (writes : WritesValue kind text value)
    (blank : Text.IsBlank ending) (held : node.HoldsValue (text ++ ending))
    (read : parseField settings node = .ok (some parsed)) :
    parsed.response = .answered value := by
  have alike := Node.readsAlike_of_holdsValue held blank
  obtain ⟨answer, filled⟩ := writes.answer alike
  have bare : node.sentinel? kind = none := by
    have noTable : kind ≠ .table := by
      rintro rfl
      cases writes
    rw [Node.sentinel?, Node.written?, if_neg noTable, alike.bind_parse?]
    exact writes.noSentinel
  obtain ⟨_, _, _, _, _, _, _, _, settled⟩ :=
    readField_eq_ok (readField_of_parseField known read)
  refine (settled.answered_iff bare value).mpr ⟨answer.symm, ?_, .inl stateless⟩
  rw [Node.isUnfilled, answer, filled]

def valueFence (content : String) : Node :=
  ⟨"fence", none, .ofList [("language", .text "value"), ("content", .text content)], [], [2]⟩

/-- A field tag with nothing but a value fence in it. -/
def fencedField (tag id content : String) : Node where
  type := "tag"
  tag := some tag
  attributes := .ofList [("id", .text id), ("label", .text id)]
  children := [valueFence content]
  lines := [1]

theorem holdsValue_valueFence (node : Node) (content : String) :
    ({ node with children := [valueFence content] } : Node).HoldsValue content :=
  ⟨[], _, [], rfl, by simp, {
    isFence := rfl
    language := ⟨"value", (Dict.get?_ofList (by simp)).mpr (by simp), by decide⟩
    content := .inl ((Dict.get?_ofList (by simp)).mpr (by simp)) }⟩

/-- Items that look like a bullet, a sentinel and an item with a bullet of its own. -/
def luggage : Node := fencedField "string-list" "luggage" ("- *\n* %SKIP%\n- - two bags" ++ "\n")

/-- A text of two lines, with a sentinel in the second. -/
def directions : Node :=
  fencedField "string-field" "directions" ("Ring twice.\r\n  %SKIP% (the gate)" ++ "")

theorem answered_luggage :
    (∃ parsed, parseField .standard luggage = .ok (some parsed) ∧
        parsed.response = .answered (.stringList ["*", "%SKIP%", "- two bags"])) ∧
      ∃ parsed, parseField .standard directions = .ok (some parsed) ∧
        parsed.response = .answered (.string (some "Ring twice.\r\n  %SKIP% (the gate)")) := by
  constructor
  · have writes : WritesItems ["*", "%SKIP%", "- two bags"] ["- *", "* %SKIP%", "- - two bags"] := {
      some := by simp
      each := by decide
      bulleted := .cons ⟨"- ", .inl rfl, by decide⟩ (.cons ⟨"* ", .inr rfl, by decide⟩
        (.cons ⟨"- ", .inl rfl, by decide⟩ .nil)) }
    have readable : (parseField .standard luggage).toOption.join.any (fun _ => true) = true := by
      decide +kernel
    obtain ⟨parsed, read, -⟩ := exists_ok_of_any readable
    have stateless : luggage.attribute? "state" = none := by decide
    have newline : Text.IsBlank "\n" := by decide
    have held : luggage.HoldsValue
        ("\n".intercalate ["- *", "* %SKIP%", "- - two bags"] ++ "\n") :=
      holdsValue_valueFence luggage _
    exact ⟨parsed, read, answered_of_writesValue (by decide) stateless (.stringList writes) newline
      held read⟩
  · have answers : IsAnswer "Ring twice.\r\n  %SKIP% (the gate)" := {
      trimmed := by decide
      shown := by decide
      noSentinel := by decide }
    have readable : (parseField .standard directions).toOption.join.any (fun _ => true) = true := by
      decide +kernel
    obtain ⟨parsed, read, -⟩ := exists_ok_of_any readable
    have stateless : directions.attribute? "state" = none := by decide
    have held := holdsValue_valueFence directions ("Ring twice.\r\n  %SKIP% (the gate)" ++ "")
    exact ⟨parsed, read, answered_of_writesValue (by decide) stateless (.string answers)
      Text.isBlank_empty held read⟩

end DocForm
