import DocForm.Proofs.Lookup
import DocForm.Proofs.Outcome
import DocForm.Wire.Answer
import Mathlib.Data.List.Nodup

/-! Reading back what has been written. Main statements: lists and dictionaries are read back when
their members are, and so are the parts of a record, each under its name. -/

namespace DocForm

/-- Whatever a reader reads, it reads again from what is written of it. -/
def Faithful {α : Type} (read : Json → Option α) (write : α → Json) : Prop :=
  ∀ json value, read json = some value → read (write value) = some value

variable {α : Type} {read : Json → Option α} {write : α → Json}

theorem faithful_text : Faithful Json.text? .str := fun _ _ _ => rfl

theorem faithful_bool : Faithful Json.bool? .bool := fun _ _ _ => rfl

theorem faithful_float : Faithful Json.float? .float := fun _ _ _ => rfl

theorem faithful_intIn (least greatest : Int) : Faithful (Json.intIn? least greatest) .int := by
  intro json value found
  cases json with
  | int written =>
    have same := (Option.ite_none_right_eq_some.mp found).2
    rwa [← Option.some.inj same] at found ⊢
  | _ => cases found

@[simp] theorem ofCount_ne_null (count : Nat) : Json.ofCount count ≠ .null := by
  simp [Json.ofCount]

theorem faithful_count : Faithful Json.count? Json.ofCount := by
  intro json count found
  obtain ⟨value, inBounds, rfl⟩ := Option.map_eq_some_iff.mp found
  have again := faithful_intIn 0 Json.countMax json value inBounds
  have positive : 0 ≤ value := by
    simp only [Json.intIn?, Option.ite_none_right_eq_some, Bool.and_eq_true,
      decide_eq_true_eq] at again
    exact again.1.1
  rw [Json.count?, Json.ofCount, Int.toNat_of_nonneg positive, again]
  rfl

/-- Every word of a vocabulary is read as what it stands for. -/
class LawfulVocabulary (α : Type) [Vocabulary α] : Prop where
  read?_word (value : α) : Vocabulary.read? (Vocabulary.word value) = some value

section Words

variable [Vocabulary α] [LawfulVocabulary α]

theorem Vocabulary.caseOfJson?_toJson (depth : Json.Depth) (value : α) :
    caseOfJson? depth (toJson value) = some value :=
  LawfulVocabulary.read?_word value

theorem Vocabulary.tagOfJson?_toJson (depth : Json.Depth) (value : α) :
    tagOfJson? depth (toJson value) = some value :=
  LawfulVocabulary.read?_word value

theorem faithful_tag (depth : Json.Depth) :
    Faithful (Vocabulary.tagOfJson? depth) (Vocabulary.toJson (α := α)) :=
  fun _ value _ => Vocabulary.tagOfJson?_toJson depth value

theorem faithful_case (depth : Json.Depth) :
    Faithful (Vocabulary.caseOfJson? depth) (Vocabulary.toJson (α := α)) :=
  fun _ value _ => Vocabulary.caseOfJson?_toJson depth value

theorem faithful_word : Faithful Vocabulary.ofJson? (Vocabulary.toJson (α := α)) :=
  faithful_case .outer

end Words

section Lists

variable {β : Type} {items : List α} {results : List β}

theorem exists_of_mem_mapM {read : α → Option β} (reads : items.mapM read = some results)
    {result : β} (member : result ∈ results) : ∃ item ∈ items, read item = some result := by
  induction items generalizing results with
  | nil =>
    cases Option.some.inj reads
    cases member
  | cons item rest ih =>
    simp only [List.mapM_cons, bind_eq_some, pure_eq_some] at reads
    obtain ⟨first, readFirst, others, readOthers, rfl⟩ := reads
    rcases List.mem_cons.mp member with rfl | later
    · exact ⟨item, List.mem_cons_self, readFirst⟩
    · obtain ⟨other, present, found⟩ := ih readOthers later
      exact ⟨other, List.mem_cons_of_mem _ present, found⟩

theorem mapM_map (read : β → Option α) (write : α → β)
    (kept : ∀ item ∈ items, read (write item) = some item) :
    (items.map write).mapM read = some items := by
  induction items with
  | nil => rfl
  | cons item rest ih =>
    obtain ⟨keptFirst, keptRest⟩ := List.forall_mem_cons.mp kept
    rw [List.map_cons, List.mapM_cons, keptFirst, ih keptRest]
    rfl

end Lists

theorem Faithful.list (faithful : Faithful read write) :
    Faithful (Json.list? read) fun items => .arr (items.map write) := by
  intro json items found
  obtain ⟨values, _, reads⟩ := Option.bind_eq_some_iff.mp found
  refine mapM_map read write fun item member => ?_
  obtain ⟨value, _, readItem⟩ := exists_of_mem_mapM reads member
  exact faithful value item readItem

/-- The entries of a dictionary are those of the record that it is read from. -/
theorem exists_of_mem_entries {json : Json} {dict : Dict α}
    (found : Dict.ofJson? read json = some dict) {entry : String × α}
    (member : entry ∈ dict.entries) : ∃ value, read value = some entry.2 := by
  simp only [Dict.ofJson?, bind_eq_some, pure_eq_some] at found
  obtain ⟨members, _, entries, reads, rfl⟩ := found
  obtain ⟨⟨name, value⟩, _, readEntry⟩ :=
    exists_of_mem_mapM reads (mem_of_mem_orderEntries member)
  obtain ⟨result, readValue, rfl⟩ := Option.map_eq_some_iff.mp readEntry
  exact ⟨value, readValue⟩

theorem Faithful.dict (faithful : Faithful read write) :
    Faithful (Dict.ofJson? read) (Dict.toJson write) := by
  intro json dict found
  have kept : ∀ entry ∈ dict.entries,
      (read (write entry.2)).map (fun value => (entry.1, value)) = some entry := by
    intro entry member
    obtain ⟨value, readValue⟩ := exists_of_mem_entries found member
    rw [faithful value entry.2 readValue]
    rfl
  have reads := mapM_map
    (fun member : String × Json => (read member.2).map fun value => (member.1, value))
    (fun entry : String × α => (entry.1, write entry.2)) kept
  rw [Dict.ofJson?, Dict.toJson, Json.members?, Option.bind_eq_bind, Option.bind_some, reads]
  exact congrArg some dict.ofList_entries

namespace Json.Members

variable {key name : String} {json : Json} {value : Option α} {items : List α}
  {first rest : Members}

@[simp] theorem get?_nil : get? [] name = none := rfl

@[simp] theorem get?_cons :
    get? ((key, json) :: rest) name = if name = key then some json else get? rest name := by
  by_cases same : name = key
  · simp [get?, same]
  · have apart : (name == key) = false := by simpa using same
    simp [get?, List.lookup_cons, same, apart]

@[simp] theorem get?_append :
    get? (first ++ rest) name = (get? first name).or (get? rest name) :=
  List.lookup_append

@[simp] theorem get?_ifSome :
    get? (ifSome key write value) name = if name = key then value.map write else none := by
  cases value with
  | none => simp [ifSome]
  | some value => simp [ifSome]

@[simp] theorem get?_ite {condition : Prop} [Decidable condition] :
    get? (if condition then first else rest) name =
      if condition then get? first name else get? rest name :=
  apply_ite (get? · name) condition first rest

@[simp] theorem get?_ifAny : get? (ifAny key write items) name =
    if name = key then if items.isEmpty then none else some (.arr (items.map write)) else none := by
  cases items with
  | nil => simp [ifAny]
  | cons item rest => simp [ifAny]

/-- The parts of a record are in the order of its names, of which some may be missing. -/
def Follow (names : List String) (members : Members) : Prop :=
  (members.map (·.1)).Sublist names

theorem follow_one : Follow [name] [(name, json)] := List.Sublist.refl _

theorem follow_ifSome : Follow [name] (ifSome name write value) := by
  cases value with
  | none => exact List.nil_sublist _
  | some value => exact follow_one

theorem follow_ifAny : Follow [name] (ifAny name write items) := by
  cases items with
  | nil => exact List.nil_sublist _
  | cons item rest => exact follow_one

theorem follow_ite {condition : Prop} [Decidable condition] :
    Follow [name] (if condition then [] else [(name, json)]) := by
  split
  · exact List.nil_sublist _
  · exact follow_one

theorem Follow.append {names others : List String} (follow : Follow names first)
    (followRest : Follow others rest) : Follow (names ++ others) (first ++ rest) := by
  rw [Follow, List.map_append]
  exact List.Sublist.append follow followRest

theorem namesOnce_of_nodup {members : Members} (distinct : (members.map (·.1)).Nodup)
    (names : List String) : namesOnce names members = true := by
  rw [namesOnce, List.all_eq_true]
  intro name _
  have counted : (members.map (·.1)).count name ≤ 1 := List.nodup_iff_count_le_one.mp distinct name
  rw [List.count_eq_countP, List.countP_map, List.countP_eq_length_filter] at counted
  simpa [Function.comp_def] using counted

/-- A record in which no name is there twice reads back, whichever names are asked for. -/
theorem record?_obj_of_follow (names : List String) {asked : List String} {members : Members}
    (follow : Follow names members) (distinct : names.Nodup) :
    record? asked (.obj members) = some members := by
  rw [record?, if_pos (namesOnce_of_nodup (follow.nodup distinct) asked)]

theorem record?_obj {names : List String} {members : Members} (follow : Follow names members)
    (distinct : names.Nodup) : record? names (.obj members) = some members :=
  record?_obj_of_follow names follow distinct

end Json.Members

namespace Faithful

variable {name : String} {before after : Json.Members} {value absent : α} {held : Option α}
  {items : List α}

/-- A part that has been read is read again where it is written. -/
theorem required (faithful : Faithful read write) (found : before.required name read = some value)
    (written : after.get? name = some (write value)) : after.required name read = some value := by
  obtain ⟨json, _, readJson⟩ := Option.bind_eq_some_iff.mp found
  rw [Json.Members.required, written]
  exact faithful json value readJson

theorem exists_of_optional (found : before.optional name read = some (some value)) :
    ∃ json, read json = some value := by
  unfold Json.Members.optional at found
  split at found
  · cases found
  · rename_i json _
    unfold Json.nullable? at found
    split at found
    · cases found
    · obtain ⟨_, readJson, same⟩ := Option.map_eq_some_iff.mp found
      exact ⟨json, by rw [readJson, Option.some.inj same]⟩

theorem nullable_write (faithful : Faithful read write) (visible : ∀ value, write value ≠ .null)
    (found : before.optional name read = some (some value)) :
    Json.nullable? read (write value) = some (some value) := by
  obtain ⟨json, readJson⟩ := exists_of_optional found
  have again := faithful json value readJson
  unfold Json.nullable?
  split
  · rename_i null
    exact absurd null (visible value)
  · rw [again]
    rfl

/-- A part that is left out when there is nothing to write. -/
theorem optional (faithful : Faithful read write) (visible : ∀ value, write value ≠ .null)
    (found : before.optional name read = some held)
    (written : after.get? name = held.map write) : after.optional name read = some held := by
  rw [Json.Members.optional, written]
  cases held with
  | none => rfl
  | some value => exact faithful.nullable_write visible found

/-- A part that is null when there is nothing to write. -/
theorem nullable (faithful : Faithful read write) (visible : ∀ value, write value ≠ .null)
    (found : before.optional name read = some held)
    (written : after.get? name = some (Json.orNull write held)) :
    after.optional name read = some held := by
  rw [Json.Members.optional, written]
  cases held with
  | none => rfl
  | some value => exact faithful.nullable_write visible found

/-- A part with a default is written all the same. -/
theorem defaulted (faithful : Faithful read write) (keptDefault : read (write absent) = some absent)
    (found : before.defaulted name read absent = some value)
    (written : after.get? name = some (write value)) :
    after.defaulted name read absent = some value := by
  rw [Json.Members.defaulted, written]
  unfold Json.Members.defaulted at found
  split at found
  · cases found
    exact keptDefault
  · exact faithful _ value found

/-- A part that is left out when it has its default. -/
theorem omitted {isDefault : Prop} [Decidable isDefault] (faithful : Faithful read write)
    (same : isDefault ↔ value = absent)
    (found : before.defaulted name read absent = some value)
    (written : after.get? name = if isDefault then none else some (write value)) :
    after.defaulted name read absent = some value := by
  by_cases given : isDefault
  · rw [Json.Members.defaulted, written, if_pos given, same.mp given]
  · rw [Json.Members.defaulted, written, if_neg given]
    unfold Json.Members.defaulted at found
    split at found
    · exact absurd (same.mpr (Option.some.inj found).symm) given
    · exact faithful _ value found

end Faithful

end DocForm
