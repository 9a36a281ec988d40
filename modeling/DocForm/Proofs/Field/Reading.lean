import DocForm.Field.Parse
import DocForm.Proofs.Outcome

/-! What a reader of a field has found when it succeeds: each attribute as it stands in the tag,
and the entry made of them. -/

namespace DocForm

namespace Heading

variable {α : Type} {heading : Heading} {settings : Settings} {entry : Entry} {name : String}

theorem ofNode_eq_ok {node : Node} {kind : FieldKind} (read : ofNode node kind = .ok heading) :
    heading.node = node ∧ heading.kind = kind ∧ node.text? "id" = some heading.id ∧
      isIdentifier heading.id = true ∧ node.text? "label" = some heading.label := by
  unfold ofNode at read
  cases named : node.text? "id" with
  | none => simp [named] at read
  | some id =>
    simp only [named, ite_eq_ok, reduceCtorEq, and_false, false_or] at read
    obtain ⟨identifier, read⟩ := read
    cases labelled : node.text? "label" with
    | none => simp [labelled] at read
    | some label =>
      simp only [labelled, Except.ok.injEq] at read
      subst read
      exact ⟨rfl, rfl, rfl, by simpa using identifier, rfl⟩

theorem refuse_ne_ok {fault : Fault} {result : α} : heading.refuse fault ≠ .ok result := by
  simp [refuse]

/-- An attribute that is read is absent or readable. -/
theorem read_eq_ok {accepts : AttributeValue → Option α} {found : Option α} :
    heading.read name accepts = .ok found ↔
      (heading.node.attribute? name = none ∧ found = none) ∨
        ∃ value result, heading.node.attribute? name = some value ∧ accepts value = some result ∧
          found = some result := by
  unfold read
  cases heading.node.attribute? name with
  | none => simp [eq_comm]
  | some value =>
    cases accepted : accepts value with
    | none => simp [accepted, refuse]
    | some result => simp [accepted, eq_comm]

theorem eq_bind_of_read {accepts : AttributeValue → Option α} {found : Option α}
    (read : heading.read name accepts = .ok found) :
    found = (heading.node.attribute? name).bind accepts := by
  rcases read_eq_ok.mp read with ⟨absent, rfl⟩ | ⟨value, result, present, accepted, rfl⟩
  · simp [absent]
  · simp [present, accepted]

theorem eq_of_flag {flag : Bool} (read : heading.flag name = .ok flag) :
    flag = (heading.node.bool? name).getD false := by
  obtain ⟨found, read, same⟩ := bind_eq_ok.mp read
  rw [← pure_eq_ok.mp same, eq_bind_of_read read]
  rfl

/-- A text that is read is absent, or it is the attribute. -/
theorem attribute?_of_text {text : Option String} (read : heading.text name = .ok text) :
    heading.node.attribute? name = text.map .text := by
  rcases read_eq_ok.mp read with ⟨absent, rfl⟩ | ⟨value, result, present, accepted, rfl⟩
  · exact absent
  · cases value <;> simp_all [AttributeValue.text?]

theorem eq_of_word [Vocabulary α] {word : Option α} (read : heading.word name = .ok word) :
    word = (heading.node.text? name).bind Vocabulary.read? := by
  rw [eq_bind_of_read read, Node.text?, Option.bind_assoc]

theorem checkBounds_eq_ok {above : α → α → Bool} {lowerName upperName : String}
    {lower upper : Option α} {done : Unit}
    (read : heading.checkBounds above lowerName upperName lower upper = .ok done) :
    ∀ low high, lower = some low → upper = some high → above low high = false := by
  rintro low high rfl rfl
  simp only [checkBounds, ite_eq_ok] at read
  rcases read with ⟨_, refused⟩ | ⟨inOrder, _⟩
  · exact absurd refused refuse_ne_ok
  · simpa using inOrder

theorem counts_eq_ok {lowerName upperName : String} {lower upper : Option Nat}
    (read : heading.counts lowerName upperName = .ok (lower, upper)) :
    heading.count lowerName = .ok lower ∧ heading.count upperName = .ok upper ∧
      ∀ low high, lower = some low → upper = some high → low ≤ high := by
  simp only [counts, bind_eq_ok, pure_eq_ok] at read
  obtain ⟨low, readLow, high, readHigh, _, checked, same⟩ := read
  cases same
  refine ⟨readLow, readHigh, fun low high isLow isHigh => ?_⟩
  simpa using checkBounds_eq_ok checked low high isLow isHigh

/-- In explicit mode a field is always required. -/
theorem eq_of_checkboxesRequired {mode : CheckboxMode} {required : Bool}
    (read : heading.checkboxesRequired mode = .ok required) :
    required = (mode = .explicit || (heading.node.bool? "required").getD false) := by
  obtain ⟨found, read, rest⟩ := bind_eq_ok.mp read
  have same : found = heading.node.bool? "required" := eq_bind_of_read read
  rw [← same]
  by_cases explicit : mode = .explicit
  · simp only [if_pos explicit, ite_eq_ok, refuse_ne_ok, and_false, false_or, pure_eq_ok] at rest
    simp [explicit, ← rest.2]
  · simp only [if_neg explicit, pure_eq_ok] at rest
    simp [explicit, rest]

theorem readString_eq_ok (read : heading.readString settings = .ok entry) :
    ∃ required minLength maxLength pattern hints remarks,
      heading.flag "required" = .ok required ∧
      heading.counts "minLength" "maxLength" = .ok (minLength, maxLength) ∧
      heading.text "pattern" = .ok pattern ∧
      heading.hints settings.strict (fun _ => true) = .ok (hints, remarks) ∧
      entry = ⟨required, .string ⟨minLength, maxLength, pattern, hints⟩, heading.node.fenceValue?,
        .string (heading.node.fenceValue?.bind Text.trim?), remarks⟩ := by
  simp only [readString, bind_eq_ok] at read
  obtain ⟨required, flagged, ⟨low, high⟩, counted, pattern, found, ⟨hints, remarks⟩, hinted, same⟩ :=
    read
  exact ⟨required, low, high, pattern, hints, remarks, flagged, counted, found, hinted,
    (pure_eq_ok.mp same).symm⟩

theorem readNumber_eq_ok (read : heading.readNumber settings = .ok entry) :
    ∃ required min max integer hints remarks,
      heading.flag "required" = .ok required ∧
      heading.number "min" = .ok min ∧ heading.number "max" = .ok max ∧
      (∀ low high, min = some low → max = some high → decide (high < low) = false) ∧
      heading.flag "integer" = .ok integer ∧
      heading.hints settings.strict (fun text => (parseNumber? text).isSome) =
        .ok (hints, remarks) ∧
      entry = ⟨required, .number ⟨min, max, integer, hints⟩, heading.node.fenceValue?,
        .number ((heading.node.fenceValue?.bind Text.trim?).bind parseNumber?),
        remarks ++ notRead (heading.node.fenceValue?.bind Text.trim?)
          ((heading.node.fenceValue?.bind Text.trim?).bind parseNumber?) "number"⟩ := by
  simp only [readNumber, bind_eq_ok] at read
  obtain ⟨required, flagged, min, readMin, max, readMax, _, checked, integer, whole,
    ⟨hints, remarks⟩, hinted, same⟩ := read
  exact ⟨required, min, max, integer, hints, remarks, flagged, readMin, readMax,
    checkBounds_eq_ok checked, whole, hinted, (pure_eq_ok.mp same).symm⟩

theorem readList_eq_ok {urls : Bool} (read : heading.readList settings urls = .ok entry) :
    ∃ required minItems maxItems itemMinLength itemMaxLength uniqueItems hints remarks,
      heading.flag "required" = .ok required ∧
      heading.counts "minItems" "maxItems" = .ok (minItems, maxItems) ∧
      heading.counts "itemMinLength" "itemMaxLength" = .ok (itemMinLength, itemMaxLength) ∧
      heading.flag "uniqueItems" = .ok uniqueItems ∧
      heading.hints settings.strict (fun text => !urls || isHttpUrl text) =
        .ok (hints, remarks) ∧
      let limits : ListLimits :=
        ⟨minItems, maxItems, itemMinLength, itemMaxLength, uniqueItems, hints⟩
      let items := listItems (heading.node.fenceValue?.getD "")
      entry = ⟨required, if urls then .urlList limits else .stringList limits,
        heading.node.fenceValue?, if urls then .urlList items else .stringList items, remarks⟩ := by
  simp only [readList, bind_eq_ok] at read
  obtain ⟨required, flagged, ⟨minItems, maxItems⟩, counted, ⟨low, high⟩, measured, unique, single,
    ⟨hints, remarks⟩, hinted, same⟩ := read
  exact ⟨required, minItems, maxItems, low, high, unique, hints, remarks, flagged, counted, measured,
    single, hinted, (pure_eq_ok.mp same).symm⟩

theorem readUrl_eq_ok (read : heading.readUrl settings = .ok entry) :
    ∃ required hints remarks,
      heading.flag "required" = .ok required ∧
      heading.hints settings.strict isHttpUrl = .ok (hints, remarks) ∧
      entry = ⟨required, .url hints, heading.node.fenceValue?,
        .url (heading.node.fenceValue?.bind Text.trim?), remarks⟩ := by
  simp only [readUrl, bind_eq_ok] at read
  obtain ⟨required, flagged, ⟨hints, remarks⟩, hinted, same⟩ := read
  exact ⟨required, hints, remarks, flagged, hinted, (pure_eq_ok.mp same).symm⟩

theorem readDate_eq_ok (read : heading.readDate settings = .ok entry) :
    ∃ required min max hints remarks,
      heading.flag "required" = .ok required ∧
      heading.dateBound "min" = .ok min ∧ heading.dateBound "max" = .ok max ∧
      (∀ low high, min.bind parseDate? = some low → max.bind parseDate? = some high →
        high.before low = false) ∧
      heading.hints settings.strict (fun text => (parseDate? text).isSome) =
        .ok (hints, remarks) ∧
      entry = ⟨required, .date ⟨min, max, hints⟩, heading.node.fenceValue?,
        .date (heading.node.fenceValue?.bind Text.trim?), remarks⟩ := by
  simp only [readDate, bind_eq_ok] at read
  obtain ⟨required, flagged, min, readMin, max, readMax, _, checked, ⟨hints, remarks⟩, hinted,
    same⟩ := read
  exact ⟨required, min, max, hints, remarks, flagged, readMin, readMax, checkBounds_eq_ok checked,
    hinted, (pure_eq_ok.mp same).symm⟩

theorem readYear_eq_ok (read : heading.readYear settings = .ok entry) :
    ∃ required min max hints remarks,
      heading.flag "required" = .ok required ∧
      heading.yearBound "min" = .ok min ∧ heading.yearBound "max" = .ok max ∧
      (∀ low high, min = some low → max = some high → low ≤ high) ∧
      heading.hints settings.strict (fun text => (parseYear? text).isSome) =
        .ok (hints, remarks) ∧
      entry = ⟨required, .year ⟨min, max, hints⟩, heading.node.fenceValue?,
        .year ((heading.node.fenceValue?.bind Text.trim?).bind parseYear?),
        remarks ++ notRead (heading.node.fenceValue?.bind Text.trim?)
          ((heading.node.fenceValue?.bind Text.trim?).bind parseYear?) "year"⟩ := by
  simp only [readYear, bind_eq_ok] at read
  obtain ⟨required, flagged, min, readMin, max, readMax, _, checked, ⟨hints, remarks⟩, hinted,
    same⟩ := read
  refine ⟨required, min, max, hints, remarks, flagged, readMin, readMax, ?_, hinted,
    (pure_eq_ok.mp same).symm⟩
  intro low high isLow isHigh
  simpa using checkBounds_eq_ok checked low high isLow isHigh

end Heading

end DocForm
