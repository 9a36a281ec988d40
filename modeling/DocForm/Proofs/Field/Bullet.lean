import DocForm.Proofs.Field.Written

/-! Lines of a list that hold a bullet and nothing else. Main statement: such a line counts as an
item, so that a list reads the same without these lines only if there are none. -/

namespace DocForm

/-- A field of the kind holds a list. -/
def FieldKind.isList : FieldKind → Bool
  | .stringList | .urlList => true
  | _ => false

/-- The response to a list field that has these items. -/
def FieldKind.listed (kind : FieldKind) (items : List String) : FieldResponse :=
  if items = [] then .unanswered
  else .answered (if kind = .urlList then .urlList items else .stringList items)

theorem FieldKind.listed_eq_iff {kind : FieldKind} {items others : List String} :
    kind.listed items = kind.listed others ↔ items = others := by
  refine ⟨fun same => ?_, congrArg kind.listed⟩
  unfold listed at same
  by_cases none : items = [] <;> by_cases noOthers : others = [] <;>
    by_cases urls : kind = .urlList <;> simp_all

variable {node : Node} {kind : FieldKind} {settings : Settings} {parsed : ParsedField}
  {content : String} {children : List Node}

theorem sentinel?_of_isList (isList : kind.isList = true)
    (alike : ReadsAlike node.fenceValue? (some content)) :
    node.sentinel? kind = Sentinel.parse? content := by
  have noTable : kind ≠ .table := by
    rintro rfl
    cases isList
  rw [Node.sentinel?, Node.written?, if_neg noTable, alike.bind_parse?, Option.bind_some]

/-- A list field without a state and without a sentinel is told by its items. -/
theorem response_of_isList (isList : kind.isList = true) (stateless : node.Stateless)
    (alike : ReadsAlike node.fenceValue? (some content)) (bare : Sentinel.parse? content = none)
    (read : readField settings node kind = .ok parsed) :
    parsed.response = kind.listed (listItems content) := by
  obtain ⟨_, _, _, _, _, _, _, _, settled⟩ := readField_eq_ok read
  have noSentinel : node.sentinel? kind = none := by rw [sentinel?_of_isList isList alike, bare]
  have listed : listItems (node.fenceValue?.getD "") = listItems content := alike.listItems
  have answer : node.answer kind =
      if kind = .urlList then .urlList (listItems content)
      else .stringList (listItems content) := by
    cases kind with
    | stringList | urlList => simp [Node.answer, listed]
    | _ => cases isList
  have empty : node.isUnfilled kind = (listItems content).isEmpty := by
    rw [Node.isUnfilled, answer]
    split <;> rfl
  unfold FieldKind.listed
  split
  · rename_i nothing
    exact (settled.unanswered_iff noSentinel).mpr (.inr ⟨stateless, by rw [empty, nothing]; rfl⟩)
  · rename_i some
    exact (settled.answered_iff noSentinel _).mpr
      ⟨answer.symm, by simpa [empty] using some, .inl stateless⟩

namespace Heading

variable {heading : Heading} {entry : Entry}

theorem readList_withChildren (children : List Node) (urls : Bool) :
    readList { heading with node := { heading.node with children } } settings urls =
      (fun entry : Entry =>
        let content := ({ heading.node with children } : Node).fenceValue?
        let items := listItems (content.getD "")
        { entry with content, value := if urls then .urlList items else .stringList items }) <$>
          readList heading settings urls := by
  simp only [readList, map_bind, map_pure]
  rfl

theorem exists_readList_of_isList (settings : Settings) (isList : heading.kind.isList = true) :
    ∃ urls, ∀ node, Heading.entry { heading with node } settings =
      readList { heading with node } settings urls := by
  obtain ⟨node, kind, id, label⟩ := heading
  cases kind with
  | stringList => exact ⟨false, fun _ => rfl⟩
  | urlList => exact ⟨true, fun _ => rfl⟩
  | _ => cases isList

/-- Of what is inside a list field only the value fence is read. -/
theorem exists_entry_withChildren (children : List Node) (isList : heading.kind.isList = true)
    (read : heading.entry settings = .ok entry) :
    ∃ value, Heading.entry { heading with node := { heading.node with children } } settings =
      .ok { entry with content := ({ heading.node with children } : Node).fenceValue?, value } := by
  obtain ⟨urls, lists⟩ := exists_readList_of_isList settings isList
  have listed : heading.readList settings urls = .ok entry := (lists heading.node).symm.trans read
  rw [lists, readList_withChildren, listed]
  exact ⟨_, rfl⟩

/-- Without a state and without a sentinel no value is refused. -/
theorem exists_finish_of_stateless (heading : Heading) (entry : Entry)
    {definition : FieldDefinition} (stateless : heading.node.Stateless)
    (bare : entry.content.bind Sentinel.parse? = none)
    (defined : heading.definition settings entry = .ok definition) :
    ∃ response, heading.finish settings entry = .ok ⟨definition, response,
      entry.remarks.map fun message => ⟨heading.id, message, heading.line⟩⟩ := by
  have absent : heading.text "state" = .ok none := read_eq_ok.mpr (.inl ⟨stateless, rfl⟩)
  obtain ⟨response, settled⟩ : ∃ response, entry.settle none = .ok response := by
    simp only [Entry.settle, bare, Entry.settleValue]
    exact ⟨_, rfl⟩
  refine ⟨response, bind_eq_ok.mpr ⟨definition, defined, bind_eq_ok.mpr ⟨none, absent, ?_⟩⟩⟩
  simp only [settled]
  rfl

end Heading

/-- With another content a list field is declared as before. -/
theorem exists_readField_withChildren (isList : kind.isList = true) (stateless : node.Stateless)
    (bare : ({ node with children } : Node).fenceValue?.bind Sentinel.parse? = none)
    (read : readField settings node kind = .ok parsed) :
    ∃ other, readField settings { node with children } kind = .ok other ∧
      other.definition = parsed.definition ∧ other.warnings = parsed.warnings := by
  simp only [readField, bind_eq_ok] at read
  obtain ⟨heading, headed, entry, entered, finished⟩ := read
  obtain ⟨rfl, rfl, _⟩ := Heading.ofNode_eq_ok headed
  obtain ⟨_, defined, _, _, remarked⟩ := Heading.finish_eq_ok finished
  have changedHeading := congrArg (Functor.map fun other : Heading =>
    { other with node := { heading.node with children } }) headed
  rw [← Heading.ofNode_withChildren] at changedHeading
  obtain ⟨value, changedEntry⟩ := Heading.exists_entry_withChildren children isList entered
  obtain ⟨response, settled⟩ := Heading.exists_finish_of_stateless
    { heading with node := { heading.node with children } }
    { entry with content := ({ heading.node with children } : Node).fenceValue?, value }
    stateless bare defined
  exact ⟨_, bind_eq_ok.mpr ⟨_, changedHeading, bind_eq_ok.mpr ⟨_, changedEntry, settled⟩⟩, rfl,
    remarked.symm⟩

/-- A bare bullet is an item: a list that holds no sentinel, with or without the lines of bare
bullets, has the same response without them only if it has no such line. A content of nothing else
answers the field with the bullets. -/
theorem unchanged_iff_no_bareBullet (known : node.fieldKind? = some kind)
    (isList : kind.isList = true) (stateless : node.Stateless) (held : node.HoldsValue content)
    (bare : Sentinel.parse? content = none)
    (rest : ({ node with children } : Node).HoldsValue (withoutBareBullets content))
    (bareRest : Sentinel.parse? (withoutBareBullets content) = none)
    (read : parseField settings node = .ok (some parsed)) :
    ∃ other, parseField settings { node with children } = .ok (some other) ∧
      other.definition = parsed.definition ∧ other.warnings = parsed.warnings ∧
      (other.response = parsed.response ↔
        ∀ line ∈ Text.splitOn '\n' content, ¬ IsBareBullet line) ∧
      ((∀ line ∈ Text.splitOn '\n' content, IsBareBullet line ∨ Text.trim line = "") →
        other.response = .unanswered ∧ parsed.response = kind.listed
          (((Text.splitOn '\n' content).filter fun line => IsBareBullet line).map Text.trim)) := by
  have readTag := readField_of_parseField known read
  have alike : ReadsAlike node.fenceValue? (some content) :=
    Node.readsAlike_of_holdsValue (by rwa [String.append_empty]) Text.isBlank_empty
  have alikeRest : ReadsAlike ({ node with children } : Node).fenceValue?
      (some (withoutBareBullets content)) :=
    Node.readsAlike_of_holdsValue (by rwa [String.append_empty]) Text.isBlank_empty
  obtain ⟨other, readOther, sameDefinition, sameWarnings⟩ :=
    exists_readField_withChildren isList stateless (alikeRest.bind_parse?.trans bareRest) readTag
  have statelessRest : ({ node with children } : Node).Stateless := stateless
  have response := response_of_isList isList stateless alike bare readTag
  have responseRest := response_of_isList isList statelessRest alikeRest bareRest readOther
  refine ⟨other, parseField_of_readField known readOther, sameDefinition, sameWarnings, ?_,
    fun each => ?_⟩
  · rw [response, responseRest, FieldKind.listed_eq_iff, listItems_withoutBareBullets_eq_iff]
  · obtain ⟨bullets, nothing⟩ := lineItems_of_bareBullets each
    rw [response, responseRest, listItems_withoutBareBullets, listItems_eq, nothing, bullets]
    exact ⟨rfl, rfl⟩

/-- A list with two bare bullets. The star among tabs has no space behind it and is an item. -/
def groceries : Node := fencedField "string-list" "groceries" "- apples\n- \n\t*\t\n*  \n- pears\n"

theorem unchanged_groceries :
    ∃ parsed other, parseField .standard groceries = .ok (some parsed) ∧
      parseField .standard { groceries with
        children := [valueFence (withoutBareBullets "- apples\n- \n\t*\t\n*  \n- pears\n")] } =
          .ok (some other) ∧
      other.definition = parsed.definition ∧ other.response ≠ parsed.response := by
  have readable : (parseField .standard groceries).toOption.join.any (fun _ => true) = true := by
    decide +kernel
  obtain ⟨parsed, read, -⟩ := exists_ok_of_any readable
  have known : groceries.fieldKind? = some .stringList := by decide
  have stateless : groceries.attribute? "state" = none := by decide
  obtain ⟨other, readOther, sameDefinition, _, unchanged, _⟩ :=
    unchanged_iff_no_bareBullet known rfl stateless
      (holdsValue_valueFence groceries "- apples\n- \n\t*\t\n*  \n- pears\n") (by decide)
      (holdsValue_valueFence groceries _) (by decide) read
  refine ⟨parsed, other, read, readOther, sameDefinition, fun same => ?_⟩
  exact unchanged.mp same "- " (by decide) (by decide)

/-- A list of bare bullets alone is answered with them. -/
theorem answered_wishes :
    (∀ line ∈ Text.splitOn '\n' "- \n *  ", IsBareBullet line) ∧
      ∃ parsed, parseField .standard (fencedField "string-list" "wishes" "- \n *  ") =
          .ok (some parsed) ∧
        parsed.response = .answered (.stringList ["-", "*"]) := by
  refine ⟨by decide, ?_⟩
  have answered : (parseField .standard
      (fencedField "string-list" "wishes" "- \n *  ")).toOption.join.any (fun parsed =>
        parsed.response = .answered (.stringList ["-", "*"])) = true := by
    decide +kernel
  obtain ⟨parsed, read, response⟩ := exists_ok_of_any answered
  exact ⟨parsed, read, of_decide_eq_true response⟩

end DocForm
