import DocForm.Proofs.Decimal.Whole
import DocForm.Proofs.Field.Lifecycle
import DocForm.Proofs.Table.Cell
import DocForm.Proofs.Table.Declared

/-! The shapes of attributes. Main statement: a field tag is refused when one of the attributes that
its kind reads is present with a value of the wrong shape, whatever else the tag holds. -/

namespace DocForm

/-- What kind of value an attribute has to have. -/
inductive Shape where
  | text
  | flag
  | number
  /-- A whole number of 32 bits. -/
  | year
  /-- A whole number that is not negative. -/
  | count
  /-- A text or a list of whatever. -/
  | samples
  /-- A text or a list of texts. -/
  | texts
  /-- A text, or a list of texts and of records that have a text as their `type`. -/
  | kinds

/-- A text, or a record with a text as its `type`. -/
inductive IsTyped : AttributeValue → Prop where
  | text (text : String) : IsTyped (.text text)
  | record {parts : List (String × AttributeValue)} {text : String}
      (typed : parts.lookup "type" = some (.text text)) : IsTyped (.record parts)

/-- A value has a shape. -/
inductive Shape.Fits : Shape → AttributeValue → Prop where
  | text (text : String) : Fits .text (.text text)
  | flag (flag : Bool) : Fits .flag (.bool flag)
  | number (value : Float) : Fits .number (.number value)
  | year {value : Float} {year : Int} (whole : Decimal.StandsFor value year)
      (lowest : -2 ^ 31 ≤ year) (highest : year < 2 ^ 31) : Fits .year (.number value)
  | count {value : Float} {count : Nat} (whole : Decimal.StandsFor value count) :
      Fits .count (.number value)
  | sample (text : String) : Fits .samples (.text text)
  | samples (items : List AttributeValue) : Fits .samples (.list items)
  | texts {value : AttributeValue} {texts : List String} (lists : ListsTexts value texts) :
      Fits .texts value
  | kind (text : String) : Fits .kinds (.text text)
  | kinds {entries : List AttributeValue} (typed : ∀ entry ∈ entries, IsTyped entry) :
      Fits .kinds (.list entries)

/-- The attributes of what is shown to whoever fills in a field. -/
def hintAttributes : List (String × Shape) := [("placeholder", .text), ("examples", .samples)]

/-- The attributes that a field tag of a kind reads beside those of all kinds. -/
def FieldKind.ownAttributes : FieldKind → List (String × Shape)
  | .string => [("minLength", .count), ("maxLength", .count), ("pattern", .text)] ++ hintAttributes
  | .number => [("min", .number), ("max", .number), ("integer", .flag)] ++ hintAttributes
  | .stringList | .urlList => [("minItems", .count), ("maxItems", .count),
      ("itemMinLength", .count), ("itemMaxLength", .count), ("uniqueItems", .flag)] ++
      hintAttributes
  | .singleSelect => []
  | .multiSelect => [("minSelections", .count), ("maxSelections", .count)]
  | .checkboxes => [("checkboxMode", .text), ("approvalMode", .text), ("minDone", .count)]
  | .url => hintAttributes
  | .date => [("min", .text), ("max", .text)] ++ hintAttributes
  | .year => [("min", .year), ("max", .year)] ++ hintAttributes
  | .table => [("minRows", .count), ("maxRows", .count), ("columnIds", .texts),
      ("columnLabels", .texts), ("columnTypes", .kinds)]

/-- The attributes that a field tag of a kind reads. -/
def FieldKind.attributes (kind : FieldKind) : List (String × Shape) :=
  [("id", .text), ("label", .text), ("priority", .text), ("role", .text), ("state", .text),
    ("required", .flag)] ++ kind.ownAttributes

namespace Node

/-- An attribute is absent or has a shape. -/
def SuitsAt (node : Node) (name : String) (shape : Shape) : Prop :=
  ∀ value, node.attribute? name = some value → shape.Fits value

/-- Whichever of some attributes are present have their shapes. -/
def Suits (node : Node) (attributes : List (String × Shape)) : Prop :=
  ∀ entry ∈ attributes, node.SuitsAt entry.1 entry.2

variable {node : Node} {name : String} {shape : Shape} {rest : List (String × Shape)}

@[simp] theorem suits_nil : node.Suits [] := by simp [Suits]

@[simp] theorem suits_cons_iff :
    node.Suits ((name, shape) :: rest) ↔ node.SuitsAt name shape ∧ node.Suits rest :=
  List.forall_mem_cons

theorem suitsAt_of_absent (absent : node.attribute? name = none) : node.SuitsAt name shape := by
  intro value present
  cases absent.symm.trans present

theorem suitsAt_of_present {value : AttributeValue} (present : node.attribute? name = some value)
    (fits : shape.Fits value) : node.SuitsAt name shape := by
  intro other found
  cases present.symm.trans found
  exact fits

theorem suitsAt_of_text? {text : String} (found : node.text? name = some text) :
    node.SuitsAt name .text := by
  obtain ⟨value, present, same⟩ := Option.bind_eq_some_iff.mp found
  cases text?_eq_some_iff.mp same
  exact suitsAt_of_present present (.text text)

end Node

namespace AttributeValue

variable {value : AttributeValue}

theorem fits_of_text? {text : String} (found : value.text? = some text) : Shape.text.Fits value :=
  text?_eq_some_iff.mp found ▸ .text text

theorem fits_of_bool? {flag : Bool} (found : value.bool? = some flag) : Shape.flag.Fits value := by
  cases value <;> cases found
  exact .flag flag

theorem fits_of_number? {number : Float} (found : value.number? = some number) :
    Shape.number.Fits value := by
  cases value <;> cases found
  exact .number number

theorem fits_of_texts? {texts : List String} (found : value.texts? = some texts) :
    Shape.samples.Fits value := by
  cases value with
  | text text => exact .sample text
  | list items => exact .samples items
  | null | bool | number | record => cases found

/-- A number that counts something stands for a natural number. -/
theorem fits_of_count? {count : Nat} (found : value.count? = some count) :
    Shape.count.Fits value := by
  cases value with
  | number x =>
    simp only [count?, Option.ite_none_right_eq_some, Bool.and_eq_true, decide_eq_true_eq] at found
    obtain ⟨⟨⟨_, nonneg⟩, isWhole⟩, _⟩ := found
    obtain ⟨whole, found⟩ := Option.isSome_iff_exists.mp isWhole
    have stands := Decimal.whole?_eq_some_iff.mp found
    have least : 0 ≤ whole := by exact_mod_cast Decimal.nonneg_of_standsFor nonneg stands
    obtain ⟨number, rfl⟩ := Int.eq_ofNat_of_zero_le least
    exact .count (by exact_mod_cast stands)
  | null | bool | text | list | record => cases found

theorem fits_of_wholeYear? {number : Float} {year : Int} (found : value.number? = some number)
    (whole : Heading.wholeYear? number = some year) : Shape.year.Fits value := by
  cases value <;> cases found
  obtain ⟨stands, inRange⟩ := Option.filter_eq_some_iff.mp whole
  obtain ⟨lowest, highest⟩ := inYearRange_iff.mp inRange
  exact .year (Decimal.whole?_eq_some_iff.mp stands) lowest highest

end AttributeValue

namespace Heading

variable {α : Type} {heading : Heading} {settings : Settings} {entry : Entry} {name : String}
  {shape : Shape}

theorem suitsAt_of_read {accepts : AttributeValue → Option α} {found : Option α}
    (fits : ∀ value result, accepts value = some result → shape.Fits value)
    (read : heading.read name accepts = .ok found) : heading.node.SuitsAt name shape := by
  rcases read_eq_ok.mp read with ⟨absent, _⟩ | ⟨value, result, present, accepted, _⟩
  · exact Node.suitsAt_of_absent absent
  · exact Node.suitsAt_of_present present (fits value result accepted)

theorem suitsAt_of_flag {flag : Bool} (read : heading.flag name = .ok flag) :
    heading.node.SuitsAt name .flag := by
  obtain ⟨_, read, _⟩ := bind_eq_ok.mp read
  exact suitsAt_of_read (fun _ _ => AttributeValue.fits_of_bool?) read

theorem suitsAt_of_count {count : Option Nat} (read : heading.count name = .ok count) :
    heading.node.SuitsAt name .count :=
  suitsAt_of_read (fun _ _ => AttributeValue.fits_of_count?) read

theorem suitsAt_of_number {number : Option Float} (read : heading.number name = .ok number) :
    heading.node.SuitsAt name .number :=
  suitsAt_of_read (fun _ _ => AttributeValue.fits_of_number?) read

theorem suitsAt_of_text {text : Option String} (read : heading.text name = .ok text) :
    heading.node.SuitsAt name .text :=
  suitsAt_of_read (fun _ _ => AttributeValue.fits_of_text?) read

theorem suitsAt_of_word [Vocabulary α] {word : Option α} (read : heading.word name = .ok word) :
    heading.node.SuitsAt name .text := by
  refine suitsAt_of_read (fun value result accepted => ?_) read
  obtain ⟨_, found, _⟩ := Option.bind_eq_some_iff.mp accepted
  exact AttributeValue.fits_of_text? found

theorem suitsAt_of_dateBound {bound : Option String} (read : heading.dateBound name = .ok bound) :
    heading.node.SuitsAt name .text := by
  refine suitsAt_of_read (fun value result accepted => ?_) read
  obtain ⟨_, kept, _⟩ := Option.map_eq_some_iff.mp accepted
  exact AttributeValue.fits_of_text? (Option.filter_eq_some_iff.mp kept).1

theorem suitsAt_of_yearBound {bound : Option Int} (read : heading.yearBound name = .ok bound) :
    heading.node.SuitsAt name .year := by
  refine suitsAt_of_read (fun value result accepted => ?_) read
  obtain ⟨_, found, whole⟩ := Option.bind_eq_some_iff.mp accepted
  exact AttributeValue.fits_of_wholeYear? found whole

theorem suitsAt_of_checkboxesRequired {mode : CheckboxMode} {required : Bool}
    (read : heading.checkboxesRequired mode = .ok required) :
    heading.node.SuitsAt "required" .flag := by
  obtain ⟨_, read, _⟩ := bind_eq_ok.mp read
  exact suitsAt_of_read (fun _ _ => AttributeValue.fits_of_bool?) read

theorem suits_of_counts {lowerName upperName : String} {bounds : Option Nat × Option Nat}
    (read : heading.counts lowerName upperName = .ok bounds) :
    heading.node.Suits [(lowerName, .count), (upperName, .count)] := by
  obtain ⟨lower, upper, _⟩ := counts_eq_ok read
  simp [suitsAt_of_count lower, suitsAt_of_count upper]

theorem suits_of_hints {strict : Bool} {valid : String → Bool} {found : Hints × List String}
    (read : heading.hints strict valid = .ok found) : heading.node.Suits hintAttributes := by
  simp only [hints, bind_eq_ok] at read
  obtain ⟨_, placeholder, _, examples, _⟩ := read
  have samples := suitsAt_of_read (fun _ _ => AttributeValue.fits_of_texts?) examples
  simp [hintAttributes, suitsAt_of_text placeholder, samples]

end Heading

theorem WritesKind.isTyped {value : AttributeValue} {kind : ColumnKind}
    (writes : WritesKind value kind) : IsTyped value := by
  cases writes with
  | name => exact .text _
  | record typed => exact .record typed

theorem ListsKinds.fits {value : AttributeValue} {kinds : List ColumnKind}
    (writes : ListsKinds value kinds) : Shape.kinds.Fits value := by
  cases writes with
  | lone => exact .kind _
  | list each =>
    apply Shape.Fits.kinds
    induction each with
    | nil => simp
    | cons writes _ ih => exact List.forall_mem_cons.mpr ⟨writes.isTyped, ih⟩

namespace Node

/-- The attributes that declare columns, with their shapes. -/
theorem Declares.suits {node : Node} {columns : List TableColumn}
    (declares : node.Declares columns) :
    node.Suits [("columnIds", .texts), ("columnLabels", .texts), ("columnTypes", .kinds)] := by
  obtain ⟨_, _, listed, ids, _⟩ := declares.ids
  have labels : node.SuitsAt "columnLabels" .texts := by
    rcases declares.labels with ⟨absent, _⟩ | ⟨_, _, present, lists, _⟩
    · exact suitsAt_of_absent absent
    · exact suitsAt_of_present present (.texts lists)
  have kinds : node.SuitsAt "columnTypes" .kinds := by
    rcases declares.kinds with ⟨absent, _⟩ | ⟨_, present, writes⟩
    · exact suitsAt_of_absent absent
    · exact suitsAt_of_present present writes.fits
  simp [suitsAt_of_present listed (.texts ids), labels, kinds]

theorem suits_of_explicitColumns {node : Node} {place : Place}
    {declared : Option (List TableColumn)} (read : explicitColumns node place = .ok declared) :
    node.Suits [("columnIds", .texts), ("columnLabels", .texts), ("columnTypes", .kinds)] := by
  cases declared with
  | some columns => exact (explicitColumns_eq_some_iff.mp read).suits
  | none =>
    have silent := explicitColumns_eq_none_iff.mp read
    simp only [columnAttributes, List.forall_mem_cons, hasAttribute_eq_false_iff] at silent
    simp [suitsAt_of_absent silent.1, suitsAt_of_absent silent.2.1, suitsAt_of_absent silent.2.2.1]

end Node

namespace Heading

variable {heading : Heading} {settings : Settings} {entry : Entry}

theorem suits_of_readCheckboxes (read : heading.readCheckboxes = .ok entry) :
    heading.node.Suits (("required", .flag) :: FieldKind.checkboxes.ownAttributes) := by
  obtain ⟨_, _, _, _, _, _, mode, approval, minDone, required, _, _, _⟩ := readCheckboxes_eq_ok read
  simp [FieldKind.ownAttributes, suitsAt_of_checkboxesRequired required, suitsAt_of_word mode,
    suitsAt_of_word approval, suitsAt_of_count minDone]

theorem suits_of_readTable (read : heading.readTable = .ok entry) :
    heading.node.Suits (("required", .flag) :: FieldKind.table.ownAttributes) := by
  obtain ⟨_, _, _, _, _, _, required, rows, columns, _⟩ := readTable_eq_ok read
  have bounds := suits_of_counts rows
  have declared := Node.suits_of_explicitColumns columns
  simp only [Node.suits_cons_iff] at bounds declared
  simp [FieldKind.ownAttributes, suitsAt_of_flag required, bounds, declared]

theorem suits_of_readList {urls : Bool} (read : heading.readList settings urls = .ok entry) :
    heading.node.Suits (("required", .flag) :: FieldKind.stringList.ownAttributes) := by
  obtain ⟨_, _, _, _, _, _, _, _, required, items, lengths, unique, hinted, _⟩ :=
    readList_eq_ok read
  have counted := suits_of_counts items
  have measured := suits_of_counts lengths
  simp only [Node.suits_cons_iff] at counted measured
  simp [FieldKind.ownAttributes, suitsAt_of_flag required, counted, measured,
    suitsAt_of_flag unique, suits_of_hints hinted]

/-- A kind is read only when all its attributes have their shapes. -/
theorem suits_of_entry (read : heading.entry settings = .ok entry) :
    heading.node.Suits (("required", .flag) :: heading.kind.ownAttributes) := by
  cases same : heading.kind with
  | string =>
    rw [Heading.entry, same] at read
    obtain ⟨_, _, _, _, _, _, required, lengths, pattern, hinted, _⟩ := readString_eq_ok read
    have measured := suits_of_counts lengths
    simp only [Node.suits_cons_iff] at measured
    simp [FieldKind.ownAttributes, suitsAt_of_flag required, measured, suitsAt_of_text pattern,
      suits_of_hints hinted]
  | number =>
    rw [Heading.entry, same] at read
    obtain ⟨_, _, _, _, _, _, required, min, max, _, integer, hinted, _⟩ := readNumber_eq_ok read
    simp [FieldKind.ownAttributes, suitsAt_of_flag required, suitsAt_of_number min,
      suitsAt_of_number max, suitsAt_of_flag integer, suits_of_hints hinted]
  | stringList | urlList =>
    rw [Heading.entry, same] at read
    exact suits_of_readList read
  | singleSelect =>
    rw [Heading.entry, same] at read
    obtain ⟨_, _, _, required, _, _⟩ := readSingleSelect_eq_ok read
    simp [FieldKind.ownAttributes, suitsAt_of_flag required]
  | multiSelect =>
    rw [Heading.entry, same] at read
    obtain ⟨_, _, _, _, _, required, selections, _⟩ := readMultiSelect_eq_ok read
    have counted := suits_of_counts selections
    simp only [Node.suits_cons_iff] at counted
    simp [FieldKind.ownAttributes, suitsAt_of_flag required, counted]
  | checkboxes =>
    rw [Heading.entry, same] at read
    exact suits_of_readCheckboxes read
  | url =>
    rw [Heading.entry, same] at read
    obtain ⟨_, _, _, required, hinted, _⟩ := readUrl_eq_ok read
    simp [FieldKind.ownAttributes, suitsAt_of_flag required, suits_of_hints hinted]
  | date =>
    rw [Heading.entry, same] at read
    obtain ⟨_, _, _, _, _, required, min, max, _, hinted, _⟩ := readDate_eq_ok read
    simp [FieldKind.ownAttributes, suitsAt_of_flag required, suitsAt_of_dateBound min,
      suitsAt_of_dateBound max, suits_of_hints hinted]
  | year =>
    rw [Heading.entry, same] at read
    obtain ⟨_, _, _, _, _, required, min, max, _, hinted, _⟩ := readYear_eq_ok read
    simp [FieldKind.ownAttributes, suitsAt_of_flag required, suitsAt_of_yearBound min,
      suitsAt_of_yearBound max, suits_of_hints hinted]
  | table =>
    rw [Heading.entry, same] at read
    exact suits_of_readTable read

theorem suits_of_finish {parsed : ParsedField} (read : heading.finish settings entry = .ok parsed) :
    heading.node.Suits [("priority", .text), ("role", .text), ("state", .text)] := by
  obtain ⟨_, defined, state, _⟩ := finish_eq_ok read
  simp only [Heading.definition, bind_eq_ok] at defined
  obtain ⟨_, priority, _, role, _⟩ := defined
  simp [suitsAt_of_word priority, suitsAt_of_text role, suitsAt_of_text state]

end Heading

variable {settings : Settings} {node : Node} {kind : FieldKind}

/-- A field is read only when every attribute of its kind is absent or has its shape. -/
theorem suits_of_readField {parsed : ParsedField}
    (read : readField settings node kind = .ok parsed) : node.Suits kind.attributes := by
  simp only [readField, bind_eq_ok] at read
  obtain ⟨heading, headed, entry, entered, finished⟩ := read
  obtain ⟨rfl, rfl, named, _, labelled⟩ := Heading.ofNode_eq_ok headed
  have own := Heading.suits_of_entry entered
  have shared := Heading.suits_of_finish finished
  simp only [Node.suits_cons_iff] at own shared
  simp [FieldKind.attributes, Node.suitsAt_of_text? named, Node.suitsAt_of_text? labelled, own,
    shared]

/-- No attribute of the wrong shape is passed over: a field tag is refused when an attribute that
its kind reads is present with a value that does not have the attribute's shape. -/
theorem refused_of_misshapen (settings : Settings) (known : node.fieldKind? = some kind)
    {name : String} {shape : Shape} (listed : (name, shape) ∈ kind.attributes)
    {value : AttributeValue} (present : node.attribute? name = some value)
    (misshapen : ¬ shape.Fits value) : ∃ error, parseField settings node = .error error := by
  apply exists_error_of_unreadable known
  intro parsed read
  exact misshapen (suits_of_readField read (name, shape) listed value present)

/-- A skipped checklist that asks for two and a half tasks. -/
def halfChecklist : Node where
  type := "tag"
  tag := some "checkboxes"
  attributes := .ofList [("id", .text "chores"), ("label", .text "Chores"),
    ("minDone", .number 2.5), ("state", .text "skipped")]
  children := [⟨"fence", none, .ofList [("language", .text "value"),
    ("content", .text "%SKIP%\n")], [], []⟩]
  lines := [1]

theorem refused_halfChecklist :
    ¬ Shape.count.Fits (.number 2.5) ∧
      ∃ error, parseField .standard halfChecklist = .error error := by
  have misshapen : ¬ Shape.count.Fits (.number 2.5) := by
    rintro ⟨⟩
    rename_i count whole
    have found : Decimal.whole? 2.5 = some (count : Int) :=
      Decimal.whole?_eq_some_iff.mpr (by exact_mod_cast whole)
    have none : Decimal.whole? 2.5 = none := by decide +kernel
    cases none.symm.trans found
  have listed : ("minDone", Shape.count) ∈ FieldKind.checkboxes.attributes := by
    simp [FieldKind.attributes, FieldKind.ownAttributes]
  exact ⟨misshapen, refused_of_misshapen .standard (by decide) listed rfl misshapen⟩

end DocForm
