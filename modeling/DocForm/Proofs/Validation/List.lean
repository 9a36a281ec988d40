import DocForm.Proofs.Validation.Code
import DocForm.Proofs.Validation.Check
import Mathlib.Data.Finset.Dedup
import Mathlib.Data.Finset.Card

/-! Errors with lists. Main statement: of each kind of error there are as many as the items and the
limits of the list make, and there is none exactly when the list keeps to all its limits. -/

namespace DocForm

/-- The errors with an answer. -/
def errorsWith (field : FieldDefinition) (value : FieldValue) : List Issue :=
  (validateField field (.answered value)).filter (·.isError)

/-- An item is too short or too long. -/
def lengthFaults (limits : ListLimits) (item : String) : List IssueCode :=
  (if limits.itemMinLength.any (item.length < ·) then [.itemMinLength] else []) ++
    (if limits.itemMaxLength.any (· < item.length) then [.itemMaxLength] else [])

/-- What a list is asked for. `addresses` tells whether its items have to be web addresses. -/
structure ListLimits.Admits (limits : ListLimits) (addresses : Bool) (items : List String) :
    Prop where
  enough : ∀ least ∈ limits.minItems, least ≤ items.length
  notTooMany : ∀ most ∈ limits.maxItems, items.length ≤ most
  longEnough : ∀ least ∈ limits.itemMinLength, ∀ item ∈ items, least ≤ item.length
  notTooLong : ∀ most ∈ limits.itemMaxLength, ∀ item ∈ items, item.length ≤ most
  distinct : limits.uniqueItems = true → items.Nodup
  addressed : addresses = true → ∀ item ∈ items, isHttpUrl item = true

/-- How many errors there are of each kind. -/
structure TellsErrors (limits : ListLimits) (addresses : Bool) (items : List String)
    (errors : List Issue) : Prop where
  minItems : .minItems ∈ codesOf errors ↔ ∃ least ∈ limits.minItems, items.length < least
  maxItems : .maxItems ∈ codesOf errors ↔ ∃ most ∈ limits.maxItems, most < items.length
  itemMinLength : (codesOf errors).count .itemMinLength =
    items.countP fun item => limits.itemMinLength.any (item.length < ·)
  itemMaxLength : (codesOf errors).count .itemMaxLength =
    items.countP fun item => limits.itemMaxLength.any (· < item.length)
  /-- All items but the first of each kind are repeated. -/
  duplicateItem : (codesOf errors).count .duplicateItem =
    if limits.uniqueItems then items.length - items.toFinset.card else 0
  invalidUrl : (codesOf errors).count .invalidUrl =
    if addresses then items.countP fun item => !isHttpUrl item else 0
  noOther : ∀ code ∈ codesOf errors, code ∈ ([.minItems, .maxItems, .itemMinLength,
    .itemMaxLength, .duplicateItem, .invalidUrl] : List IssueCode)

variable {field : FieldDefinition} {limits : ListLimits} {items : List String} {value : FieldValue}
  {addresses : Bool} {errors : List Issue}

/-- Warnings apart, what is said of an answer is what is said of its value. -/
theorem errorsWith_eq (sameKind : value.kind = field.kind) :
    errorsWith field value = field.checkValue value := by
  have remarks : (value.texts.flatMap field.checkSentinel).filter (·.isError) = [] := by
    rw [List.filter_eq_nil_iff]
    intro issue member
    simp [Issue.isError, (FieldDefinition.remark_of_mem member).2]
  have kept : (field.checkValue value).filter (·.isError) = field.checkValue value := by
    rw [List.filter_eq_self]
    intro issue member
    simp [Issue.isError, (FieldDefinition.finds_of_mem_checkValue member).severity_eq]
  rw [errorsWith, validateField, FieldDefinition.checkAnswer, if_pos sameKind, List.filter_append,
    remarks, kept, List.nil_append]

theorem codesOf_checkItemLength (item : String) :
    codesOf (field.checkItemLength limits item) = lengthFaults limits item := by
  simp [FieldDefinition.checkItemLength, lengthFaults]

/-- Items that were seen before are repeated, so that with each item there is either one more
repetition or one more item to be seen. -/
theorem length_checkRepeats (seen items : List String) :
    (field.checkRepeats seen items).length + (seen ++ items).toFinset.card =
      items.length + seen.toFinset.card := by
  induction items generalizing seen with
  | nil => simp [FieldDefinition.checkRepeats]
  | cons item rest ih =>
    have later := ih (item :: seen)
    have sameItems : ((item :: seen) ++ rest).toFinset = (seen ++ item :: rest).toFinset := by
      ext other
      simp only [List.mem_toFinset, List.mem_append, List.mem_cons]
      tauto
    rw [sameItems] at later
    rw [FieldDefinition.checkRepeats, List.length_append, List.length_cons]
    by_cases known : item ∈ seen
    · have reported : (field.errorIf (seen.contains item) .duplicateItem
          s!"Item '{item}' is repeated").length = 1 := by
        simp [FieldDefinition.errorIf, Issue.errorIf, known]
      have sameSeen : (item :: seen).toFinset.card = seen.toFinset.card := by
        rw [List.toFinset_cons, Finset.insert_eq_of_mem (List.mem_toFinset.mpr known)]
      omega
    · have unreported : (field.errorIf (seen.contains item) .duplicateItem
          s!"Item '{item}' is repeated").length = 0 := by
        simp [FieldDefinition.errorIf, Issue.errorIf, known]
      have oneMore : (item :: seen).toFinset.card = seen.toFinset.card + 1 := by
        rw [List.toFinset_cons, Finset.card_insert_of_notMem (by simpa using known)]
      omega

theorem code_of_mem_checkRepeats {seen items : List String} {code : IssueCode}
    (member : code ∈ codesOf (field.checkRepeats seen items)) : code = .duplicateItem := by
  induction items generalizing seen with
  | nil => simp [FieldDefinition.checkRepeats] at member
  | cons item rest ih =>
    rw [FieldDefinition.checkRepeats, codesOf_append, List.mem_append] at member
    rcases member with here | later
    · have reported : item ∈ seen ∧ code = .duplicateItem := by simpa using here
      exact reported.2
    · exact ih later

/-- All items of a list are distinct but for the repeated ones. -/
theorem codesOf_checkRepeats (items : List String) :
    codesOf (field.checkRepeats [] items) =
      List.replicate (items.length - items.toFinset.card) .duplicateItem := by
  have counted : (field.checkRepeats [] items).length + items.toFinset.card = items.length :=
    length_checkRepeats [] items
  refine List.eq_replicate_iff.mpr ⟨?_, fun _ => code_of_mem_checkRepeats⟩
  rw [codesOf, List.length_map]
  omega

/-- The codes of the errors with a list, check by check. -/
def listFaults (limits : ListLimits) (addresses : Bool) (items : List String) : List IssueCode :=
  (if limits.minItems.any (items.length < ·) then [.minItems] else []) ++
    (if limits.maxItems.any (· < items.length) then [.maxItems] else []) ++
      items.flatMap (lengthFaults limits) ++
        (if limits.uniqueItems then
          List.replicate (items.length - items.toFinset.card) .duplicateItem else []) ++
          if addresses then items.flatMap fun item => if isHttpUrl item then [] else [.invalidUrl]
          else []

theorem codesOf_checkItems :
    codesOf (field.checkItems limits items) = listFaults limits false items := by
  rw [FieldDefinition.checkItems, listFaults]
  simp only [codesOf_append, FieldDefinition.codesOf_checkBound, codesOf_flatMap,
    codesOf_checkItemLength, Bool.false_eq_true, if_false, List.append_nil]
  congr 1
  split
  · exact codesOf_checkRepeats items
  · rfl

theorem codesOf_checkUrl (item : String) :
    codesOf (field.checkUrl item) = if isHttpUrl item then [] else [.invalidUrl] := by
  cases valid : isHttpUrl item <;> simp [FieldDefinition.checkUrl, valid]

theorem codesOf_errorsWith_stringList (declared : field.constraints = .stringList limits)
    (items : List String) :
    codesOf (errorsWith field (.stringList items)) = listFaults limits false items := by
  have sameKind : (FieldValue.stringList items).kind = field.kind := by
    rw [FieldDefinition.kind, declared]
    rfl
  rw [errorsWith_eq sameKind]
  simp only [FieldDefinition.checkValue, declared]
  exact codesOf_checkItems

theorem codesOf_errorsWith_urlList (declared : field.constraints = .urlList limits)
    (items : List String) :
    codesOf (errorsWith field (.urlList items)) = listFaults limits true items := by
  have sameKind : (FieldValue.urlList items).kind = field.kind := by
    rw [FieldDefinition.kind, declared]
    rfl
  rw [errorsWith_eq sameKind]
  simp only [FieldDefinition.checkValue, declared, codesOf_append, codesOf_checkItems,
    codesOf_flatMap, codesOf_checkUrl, listFaults, Bool.false_eq_true, if_false, if_true,
    List.append_nil]

/-- A check that reports a code for broken items reports it once for each of them. -/
theorem count_flatMap {check : String → List IssueCode} {broken : String → Bool} {code : IssueCode}
    (each : ∀ item, (check item).count code = if broken item then 1 else 0) (items : List String) :
    (items.flatMap check).count code = items.countP broken := by
  induction items with
  | nil => rfl
  | cons item rest ih =>
    rw [List.flatMap_cons, List.count_append, each, ih, List.countP_cons, Nat.add_comm]

/-- The codes tell how many errors there are of each kind. -/
theorem tellsErrors_of_codes (told : codesOf errors = listFaults limits addresses items) :
    TellsErrors limits addresses items errors where
  minItems := by simp [told, listFaults, lengthFaults, Option.any_eq_true]
  maxItems := by simp [told, listFaults, lengthFaults, Option.any_eq_true]
  itemMinLength := by
    have each (item : String) : (lengthFaults limits item).count .itemMinLength =
        if limits.itemMinLength.any (item.length < ·) then 1 else 0 := by
      simp [lengthFaults, apply_ite (List.count _)]
    rw [told, listFaults, ← count_flatMap each]
    simp [apply_ite (List.count _), List.count_replicate, List.count_flatMap, Function.comp_def]
  itemMaxLength := by
    have each (item : String) : (lengthFaults limits item).count .itemMaxLength =
        if limits.itemMaxLength.any (· < item.length) then 1 else 0 := by
      simp [lengthFaults, apply_ite (List.count _)]
    rw [told, listFaults, ← count_flatMap each]
    simp [apply_ite (List.count _), List.count_replicate, List.count_flatMap, Function.comp_def]
  duplicateItem := by
    rw [told, listFaults]
    simp [lengthFaults, apply_ite (List.count _), List.count_flatMap, Function.comp_def]
  invalidUrl := by
    have each (item : String) :
        (if isHttpUrl item then [] else [IssueCode.invalidUrl]).count .invalidUrl =
          if !isHttpUrl item then 1 else 0 := by
      cases isHttpUrl item <;> rfl
    rw [told, listFaults, ← count_flatMap each]
    simp [lengthFaults, apply_ite (List.count _), List.count_replicate, List.count_flatMap,
      Function.comp_def]
  noOther := by
    rw [told, listFaults]
    intro code member
    simp only [List.mem_append, List.mem_flatMap, lengthFaults, List.mem_ite_nil_right,
      List.mem_ite_nil_left, List.mem_singleton, List.mem_replicate] at member
    rcases member with (((⟨_, rfl⟩ | ⟨_, rfl⟩) | ⟨_, _, ⟨_, rfl⟩ | ⟨_, rfl⟩⟩) | ⟨_, _, rfl⟩) |
      ⟨_, _, _, _, rfl⟩
    all_goals decide

theorem nodup_iff_card (items : List String) :
    items.Nodup ↔ items.length - items.toFinset.card = 0 := by
  rw [List.card_toFinset, Nat.sub_eq_zero_iff_le]
  constructor
  · intro distinct
    rw [distinct.dedup]
  · intro long
    rw [← (List.dedup_sublist items).eq_of_length_le long]
    exact List.nodup_dedup items

namespace TellsErrors

theorem admits_of_nil (tells : TellsErrors limits addresses items []) :
    limits.Admits addresses items where
  enough least isLeast := by
    by_contra short
    simpa using tells.minItems.mpr ⟨least, isLeast, Nat.lt_of_not_le short⟩
  notTooMany most isMost := by
    by_contra long
    simpa using tells.maxItems.mpr ⟨most, isMost, Nat.lt_of_not_le long⟩
  longEnough least isLeast item member := by
    have allLong := List.countP_eq_zero.mp tells.itemMinLength.symm item member
    simpa [Option.mem_def.mp isLeast] using allLong
  notTooLong most isMost item member := by
    have allShort := List.countP_eq_zero.mp tells.itemMaxLength.symm item member
    simpa [Option.mem_def.mp isMost] using allShort
  distinct unique := by
    have noneRepeated := tells.duplicateItem
    rw [if_pos unique] at noneRepeated
    exact (nodup_iff_card items).mpr noneRepeated.symm
  addressed asked item member := by
    have noneInvalid := tells.invalidUrl
    rw [if_pos asked] at noneInvalid
    simpa using List.countP_eq_zero.mp noneInvalid.symm item member

theorem count_eq_zero_of_admits (tells : TellsErrors limits addresses items errors)
    (admits : limits.Admits addresses items) (code : IssueCode) : code ∉ codesOf errors := by
  intro member
  have counted := List.count_pos_iff.mpr member
  have known := tells.noOther code member
  simp only [List.mem_cons, List.not_mem_nil, or_false] at known
  rcases known with rfl | rfl | rfl | rfl | rfl | rfl
  · obtain ⟨least, isLeast, short⟩ := tells.minItems.mp member
    exact Nat.not_lt.mpr (admits.enough least isLeast) short
  · obtain ⟨most, isMost, long⟩ := tells.maxItems.mp member
    exact Nat.not_lt.mpr (admits.notTooMany most isMost) long
  · rw [tells.itemMinLength] at counted
    obtain ⟨item, inItems, broken⟩ := List.countP_pos_iff.mp counted
    obtain ⟨least, isLeast, short⟩ := (Option.any_eq_true _ _).mp broken
    exact Nat.not_lt.mpr (admits.longEnough least isLeast item inItems) (by simpa using short)
  · rw [tells.itemMaxLength] at counted
    obtain ⟨item, inItems, broken⟩ := List.countP_pos_iff.mp counted
    obtain ⟨most, isMost, long⟩ := (Option.any_eq_true _ _).mp broken
    exact Nat.not_lt.mpr (admits.notTooLong most isMost item inItems) (by simpa using long)
  · rw [tells.duplicateItem] at counted
    split at counted
    · rename_i unique
      rw [(nodup_iff_card items).mp (admits.distinct unique)] at counted
      exact Nat.lt_irrefl 0 counted
    · exact Nat.lt_irrefl 0 counted
  · rw [tells.invalidUrl] at counted
    split at counted
    · rename_i asked
      obtain ⟨item, inItems, invalid⟩ := List.countP_pos_iff.mp counted
      simp [admits.addressed asked item inItems] at invalid
    · exact Nat.lt_irrefl 0 counted

theorem eq_nil_iff (tells : TellsErrors limits addresses items errors) :
    errors = [] ↔ limits.Admits addresses items := by
  constructor
  · rintro rfl
    exact tells.admits_of_nil
  · intro admits
    have noCode := List.eq_nil_iff_forall_not_mem.mpr (tells.count_eq_zero_of_admits admits)
    exact List.map_eq_nil_iff.mp noCode

end TellsErrors

/-- The errors with a list are told by its items and its limits, and a list without errors is one
that its limits admit. -/
theorem tellsErrors_of_list (field : FieldDefinition) (limits : ListLimits) (items : List String) :
    (field.constraints = .stringList limits →
      let errors := errorsWith field (.stringList items)
      TellsErrors limits false items errors ∧ (errors = [] ↔ limits.Admits false items)) ∧
    (field.constraints = .urlList limits →
      let errors := errorsWith field (.urlList items)
      TellsErrors limits true items errors ∧ (errors = [] ↔ limits.Admits true items)) := by
  constructor
  · intro declared errors
    have tells := tellsErrors_of_codes (codesOf_errorsWith_stringList declared items)
    exact ⟨tells, tells.eq_nil_iff⟩
  · intro declared errors
    have tells := tellsErrors_of_codes (codesOf_errorsWith_urlList declared items)
    exact ⟨tells, tells.eq_nil_iff⟩

/-- Two or three different items of at least five characters. -/
def sourceLimits : ListLimits := ⟨some 2, some 3, some 5, none, true, ⟨none, []⟩⟩

/-- A field that asks for sources, as addresses or by their names. -/
def sources (addresses : Bool) : FieldDefinition where
  id := "sources"
  label := "Sources"
  required := true
  priority := .medium
  role := "agent"
  validators := []
  constraints := if addresses then .urlList sourceLimits else .stringList sourceLimits
  line := none

/-- Of four addresses three are the same and one is none. Names are counted in characters. -/
theorem tellsErrors_sources :
    let items := ["http://[::1]", "::1", "http://[::1]", "http://[::1]"]
    let errors := errorsWith (sources true) (.urlList items)
    (TellsErrors sourceLimits true items errors ∧
      codesOf errors =
        [.maxItems, .itemMinLength, .duplicateItem, .duplicateItem, .invalidUrl]) ∧
    sourceLimits.Admits false ["Émile", "Zoë K"] := by
  intro items errors
  refine ⟨⟨((tellsErrors_of_list (sources true) sourceLimits items).2 rfl).1, ?_⟩, ?_⟩
  · decide +kernel
  · refine ((tellsErrors_of_list (sources false) sourceLimits _).1 rfl).2.mp ?_
    decide +kernel

end DocForm
